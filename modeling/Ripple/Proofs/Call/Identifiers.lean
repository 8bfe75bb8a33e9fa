-- SUMMARY: A method has one identifier where it makes calls and where it is called.
import Ripple.Proofs.Call.Bodies
import Ripple.Proofs.Java.Declarations

/-! # Identifiers on both sides of a call

A method is named twice: where it makes calls, by the type that it stands in, and where it is
called, by the type that a variable was declared with. The two names are one. Within a file the
simple name of a type leads to the name that its methods call under; from another file it does so
through an import or a common package.
-/

namespace Ripple.Java

/-! ## Calls through variables -/

/-- What a call is made on and which method is called, if the receiver is a name: one in front of
the call, or members of the current object. -/
def Occurrence.receiver? (occurrence : Occurrence) : Option (String × String) :=
  match occurrence.place, occurrence.role with
  | .free, .call (some receiver) method => some (receiver, method)
  | .selector .this preceding, .call _ method =>
    (memberNames? preceding).map fun members => (Name.join members, method)
  | _, _ => none

section Receiver

variable {context : MethodContext} {receiver type : String}

/-- The word for the current object is in front of no name. -/
theorem behindThis_of_isName (h : IsName receiver) :
    NameContext.behindThis receiver = receiver := by
  have hplain : "this.".toList.isPrefixOf receiver.toList = false := by
    rw [Bool.eq_false_iff]
    intro hprefix
    have hpoint : '.' ∈ receiver.toList :=
      (List.isPrefixOf_iff_prefix.1 hprefix).subset (by decide)
    exact absurd (h.no_point '.' hpoint) (by decide)
  simp only [NameContext.behindThis, hplain]
  rfl

/-- A variable has the type that it was declared with. -/
theorem receiverType_of_lookup? (hname : IsName receiver) (htype : type ≠ "")
    (hlookup : context.scope.lookup? receiver = some type) (enclosing : String) :
    context.names.receiverType context.scope enclosing receiver = context.names.qualify type := by
  have hself : ¬(receiver.isEmpty || receiver == "this") = true := by
    simp [hname.ne_empty, hname.ne_this]
  have hgiven : ¬type.isEmpty = true := by simpa using htype
  simp only [NameContext.receiverType, if_neg hself, behindThis_of_isName hname, hlookup,
    if_neg hgiven]

theorem callTarget_of_receiver? {occurrence : Occurrence} {method : String}
    (h : occurrence.receiver? = some (receiver, method)) (hname : IsName receiver)
    (htype : type ≠ "") (hlookup : context.scope.lookup? receiver = some type) :
    context.callTarget occurrence.place occurrence.role =
      some (some (context.names.qualify type), method) := by
  unfold Occurrence.receiver? at h
  split at h
  next hplace hrole =>
    cases h
    rw [hplace, hrole]
    simp only [MethodContext.callTarget, Option.map_some,
      receiverType_of_lookup? hname htype hlookup]
  next preceding qualifier _ hplace hrole =>
    obtain ⟨members, hmembers, hpair⟩ := Option.map_eq_some_iff.1 h
    cases hpair
    -- without members the receiver would be empty
    have hsome : members ≠ [] := by
      rintro rfl
      exact hname.ne_empty rfl
    have hpreceding : preceding ≠ [] := by
      rintro rfl
      cases hmembers
      exact hsome rfl
    rw [hplace, hrole]
    simp [MethodContext.callTarget, hpreceding, hmembers, NameContext.memberChainType?, hsome,
      receiverType_of_lookup? hname htype hlookup]
  next => cases h

/-- A call through a variable is recorded for the type of the variable. -/
theorem outcomeOf_of_receiver? {occurrence : Occurrence} {method : String}
    (h : occurrence.receiver? = some (receiver, method)) (hname : IsName receiver)
    (htype : type ≠ "") (hlookup : context.scope.lookup? receiver = some type)
    (hmethod : method ∉ universalMethods) (hqualified : context.names.qualify type ≠ "") :
    context.outcomeOf occurrence =
      [.site ⟨context.names.qualify type ++ "." ++ method,
        ⟨context.caller, context.file, occurrence.line⟩⟩] := by
  have hcounted : ¬universalMethods.contains method = true := by simpa using hmethod
  have hknown : ¬(context.names.qualify type).isEmpty = true := by simpa using hqualified
  rw [MethodContext.outcomeOf, MethodContext.outcome,
    callTarget_of_receiver? h hname htype hlookup]
  simp only [if_neg hcounted, if_neg hknown]

end Receiver

/-- Calls are recorded with the method that they stand in. -/
theorem MethodContext.caller_of_mem_outcomeOf {context : MethodContext} {occurrence : Occurrence}
    {site : CallSite} (h : .site site ∈ context.outcomeOf occurrence) :
    site.reference.caller = context.caller := by
  unfold outcomeOf outcome at h
  split at h
  · cases h
  · split at h
    · cases h
    · split at h
      · simp at h
      · split at h
        · simp at h
        · obtain rfl : site = _ := by simpa using h
          rfl

theorem Body.caller_of_mem_outcomes {body : Body} {site : CallSite}
    (h : .site site ∈ body.outcomes) : site.reference.caller = body.context.caller := by
  obtain ⟨occurrence, -, h⟩ := List.mem_flatMap.1 h
  exact MethodContext.caller_of_mem_outcomeOf h

namespace CompilationUnit

/-! ## Types of other files -/

/-- Whether a simple name stands for a type of a package: by the first import of that name, or as a
name of the file's own package if there is no such import. -/
def Sees (unit : CompilationUnit) (package type : String) : Prop :=
  unit.imports.find? (NameContext.importsName · type) =
      some (NameContext.inPackage ⟨package, [], []⟩ type) ∨
    unit.package = package ∧ unit.imports.find? (NameContext.importsName · type) = none

instance (unit : CompilationUnit) (package type : String) : Decidable (unit.Sees package type) :=
  inferInstanceAs (Decidable (_ ∨ _))

/-- A type that is seen and not hidden by a declared one has the name it has at home. -/
theorem qualify_of_sees {home client : CompilationUnit} (hhome : AllNamed home.types)
    (hclient : AllNamed client.types) {type : String} (htype : IsName type)
    (hforeign : type ∉ client.typePaths.map simpleName) (hsees : client.Sees home.package type) :
    client.nameContext.qualify type = home.nameContext.pathName [type] := by
  have hpath : home.nameContext.pathName [type] =
      NameContext.inPackage ⟨home.package, [], []⟩ type := by
    rw [NameContext.pathName, Name.join_singleton, NameContext.inPackage, NameContext.inPackage,
      package_nameContext hhome]
  rw [qualify_of_not_declared hclient htype hforeign, hpath]
  obtain himport | ⟨hpackage, himport⟩ := hsees
  · rw [himport]
    rfl
  · rw [himport, Option.getD_none, NameContext.inPackage, NameContext.inPackage,
      package_nameContext hclient, hpackage]

/-! ## Both sides agree -/

/-- Let two files be parsed. All calls recorded of them come from the nodes of the bodies of their
methods. If the types of the first file have distinct simple names, then each of these names is
qualified to that of its type, and the calls of its methods are recorded under it. And a call in the
second file through a variable whose type is spelled as an outermost type of the first, where the
second declares no such type itself and sees that one, is recorded under the identifier that the
methods of that name and type call under. -/
theorem identifiers_agree {homeText clientText : List Char} {home client : CompilationUnit}
    (hhome : parse homeText = .ok (.ok home)) (hclient : parse clientText = .ok (.ok client))
    (homeFile clientFile : String) :
    home.calls homeFile = (home.bodies homeFile).flatMap Body.outcomes ∧
    client.calls clientFile = (client.bodies clientFile).flatMap Body.outcomes ∧
    ((home.typePaths.map simpleName).Nodup →
      (∀ path ∈ home.typePaths,
        home.nameContext.qualify (simpleName path) = home.nameContext.pathName path) ∧
      ∀ body ∈ home.bodies homeFile, body.path ∈ home.typePaths ∧
        body.context.enclosing = home.nameContext.qualify (simpleName body.path) ∧
        ∀ site, .site site ∈ body.outcomes →
          site.reference.caller =
            home.nameContext.qualify (simpleName body.path) ++ "." ++ body.name) ∧
    ∀ type, [type] ∈ home.typePaths → type ∉ client.typePaths.map simpleName →
      client.Sees home.package type →
      ∀ body ∈ client.bodies clientFile,
      body.occurrences.map (·.role) = body.node.preorder.map Node.role ∧
      ∀ occurrence ∈ body.occurrences, ∀ receiver method,
        occurrence.receiver? = some (receiver, method) →
        body.context.scope.lookup? receiver = some type → method ∉ universalMethods →
        body.context.outcomeOf occurrence =
          [.site ⟨home.nameContext.pathName [type] ++ "." ++ method,
            ⟨body.context.caller, clientFile, occurrence.line⟩⟩] ∧
        ∀ called ∈ home.bodies homeFile, called.path = [type] → called.name = method →
          called.context.caller = home.nameContext.pathName [type] ++ "." ++ method ∧
          ∀ site, .site site ∈ called.outcomes →
            site.reference.caller = home.nameContext.pathName [type] ++ "." ++ method := by
  have hhome := allNamed_of_parse hhome
  have hclient := allNamed_of_parse hclient
  refine ⟨home.calls_eq_flatMap_bodies _, client.calls_eq_flatMap_bodies _, ?_, ?_⟩
  · intro hnodup
    refine ⟨fun path hpath => qualify_simpleName hhome hnodup hpath, ?_⟩
    intro body hbody
    obtain ⟨hfits, hpath⟩ := fits_of_mem_bodies hhome hbody
    rw [qualify_simpleName hhome hnodup hpath]
    refine ⟨hpath, hfits.enclosing_eq, ?_⟩
    intro site hsite
    rw [Body.caller_of_mem_outcomes hsite, hfits.caller_eq]
  · intro type htype hforeign hsees body hbody
    refine ⟨body.node.map_role_occurrences .free 0, ?_⟩
    intro occurrence _ receiver method hreceiver hlookup hmethod
    obtain ⟨hfits, -⟩ := fits_of_mem_bodies hclient hbody
    have hname : IsName type := isName_of_mem_memberTypePaths hhome [type] htype
    have hqualify : body.context.names.qualify type = home.nameContext.pathName [type] := by
      rw [hfits.names_eq, qualify_of_sees hhome hclient hname hforeign hsees]
    have hqualified : body.context.names.qualify type ≠ "" := by
      rw [hqualify, NameContext.pathName, Name.join_singleton]
      exact NameContext.inPackage_ne_empty _ hname.ne_empty
    constructor
    · rw [outcomeOf_of_receiver? hreceiver (hfits.isName_of_lookup? _ _ hlookup) hname.ne_empty
        hlookup hmethod hqualified, hqualify, hfits.file_eq]
    · intro called hcalled hpath hcalledName
      obtain ⟨hcalledFits, -⟩ := fits_of_mem_bodies hhome hcalled
      have hcaller : called.context.caller =
          home.nameContext.pathName [type] ++ "." ++ method := by
        rw [hcalledFits.caller_eq, hpath, hcalledName]
      refine ⟨hcaller, ?_⟩
      intro site hsite
      rw [Body.caller_of_mem_outcomes hsite, hcaller]

/-- Whether a text is a source file with a property. -/
def reads (P : CompilationUnit → Prop) [DecidablePred P] (text : List Char) : Bool :=
  match parse text with
  | .ok (.ok unit) => decide (P unit)
  | _ => false

theorem exists_of_reads {P : CompilationUnit → Prop} [DecidablePred P] {text : List Char}
    (h : reads P text = true) : ∃ unit, parse text = .ok (.ok unit) ∧ P unit := by
  unfold reads at h
  split at h
  next unit hunit => exact ⟨unit, hunit, of_decide_eq_true h⟩
  next => cases h

def ordersText : List Char :=
  "package shop; class Orders { class Line { } void find() { load(); } }".toList

def deskText : List Char :=
  "import shop.Orders; class Desk { Orders all; void open() { this.all.find(); } }".toList

/-- A desk finds orders under the name that these load under. -/
theorem identifiers_agree_orders :
    ∃ home client, parse ordersText = .ok (.ok home) ∧ parse deskText = .ok (.ok client) ∧
      home.typePaths = [["Orders"], ["Orders", "Line"]] ∧
      home.nameContext.qualify "Line" = "shop.Orders.Line" ∧
      ∃ body ∈ client.bodies "Desk.java", ∃ occurrence ∈ body.occurrences,
        body.context.outcomeOf occurrence =
          [.site ⟨"shop.Orders.find", ⟨"Desk.open", "Desk.java", 1⟩⟩] ∧
        ∃ called ∈ home.bodies "Orders.java",
          called.outcomes =
            [.site ⟨"shop.Orders.load", ⟨"shop.Orders.find", "Orders.java", 1⟩⟩] ∧
          called.context.caller = "shop.Orders.find" := by
  have hhome : reads (fun home =>
      home.typePaths = [["Orders"], ["Orders", "Line"]] ∧ home.package = "shop" ∧
      home.nameContext.package = "shop" ∧
      ∃ called ∈ home.bodies "Orders.java", called.path = ["Orders"] ∧ called.name = "find" ∧
        called.outcomes =
          [.site ⟨"shop.Orders.load", ⟨"shop.Orders.find", "Orders.java", 1⟩⟩])
      ordersText = true := by
    decide +kernel
  have hclient : reads (fun client =>
      "Orders" ∉ client.typePaths.map simpleName ∧ client.Sees "shop" "Orders" ∧
      ∃ body ∈ client.bodies "Desk.java", body.context.caller = "Desk.open" ∧
        body.context.scope.lookup? "all" = some "Orders" ∧
        ∃ occurrence ∈ body.occurrences,
          occurrence.receiver? = some ("all", "find") ∧ occurrence.line = 1) deskText = true := by
    decide +kernel
  obtain ⟨home, hhome, htypes, hpackage, hnames, called, hcalled, hpath, hname, hcalls⟩ :=
    exists_of_reads hhome
  obtain ⟨client, hclient, hforeign, hsees, body, hbody, hcaller, hlookup, occurrence, hoccurrence,
    hreceiver, hline⟩ := exists_of_reads hclient
  have hagree := identifiers_agree hhome hclient "Orders.java" "Desk.java"
  have hnodup : (home.typePaths.map simpleName).Nodup := by
    rw [htypes]
    decide
  have hline' : home.nameContext.pathName ["Orders", "Line"] = "shop.Orders.Line" := by
    simp [NameContext.pathName, NameContext.inPackage, hnames, Name.join_pair]
  have horders : home.nameContext.pathName ["Orders"] ++ "." ++ "find" = "shop.Orders.find" := by
    simp [NameContext.pathName, NameContext.inPackage, hnames, Name.join_singleton]
  refine ⟨home, client, hhome, hclient, htypes, ?_, body, hbody, occurrence, hoccurrence, ?_⟩
  · have hline := (hagree.2.2.1 hnodup).1 ["Orders", "Line"] (by simp [htypes])
    rwa [hline'] at hline
  · have hcall := (hagree.2.2.2 "Orders" (by simp [htypes]) hforeign (hpackage ▸ hsees) body
      hbody).2 occurrence hoccurrence "all" "find" hreceiver hlookup (by decide)
    rw [horders, hcaller, hline] at hcall
    exact ⟨hcall.1, called, hcalled, hcalls, (hcall.2 called hcalled hpath hname).1⟩

end CompilationUnit

end Ripple.Java
