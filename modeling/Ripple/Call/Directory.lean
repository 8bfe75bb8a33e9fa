-- SUMMARY: The call index together with its table of short identifiers, which is made when it is first asked for.
import Ripple.Call.Index

/-! # Questions about calls

The methods that a short identifier stands for are looked up in a table. It is made when it is first
asked for and kept until a call is added.
-/

namespace Ripple

/-- A call index, and the table of the short identifiers of its called methods if it is made. -/
structure CallDirectory where
  index : CallIndex := {}
  shortNames? : Option (List (String × List String)) := none

namespace CallDirectory

/-- The called methods under their last two segments. -/
def shortNames (index : CallIndex) : List (String × List String) :=
  index.callees.foldl (fun table callee => CallIndex.addTo (Name.simpleMethod callee) callee table) []

/-- Adds a call. The table is out of date then. -/
def add (directory : CallDirectory) (site : CallSite) : CallDirectory where
  index := directory.index.add site
  shortNames? := none

def ofSites (sites : List CallSite) : CallDirectory :=
  sites.foldl add {}

/-- The table, which is made if it is not there. -/
def withShortNames (directory : CallDirectory) : List (String × List String) × CallDirectory :=
  match directory.shortNames? with
  | some table => (table, directory)
  | none =>
    let table := shortNames directory.index
    (table, { directory with shortNames? := some table })

/-- The called methods that an identifier stands for. -/
def calleeKeys (directory : CallDirectory) (method : String) : List String × CallDirectory :=
  if directory.index.contains method then ([method], directory)
  else
    let owner := Name.ownerOf method
    if owner.isEmpty || Name.isQualified owner then ([], directory)
    else
      let (table, directory) := directory.withShortNames
      ((table.lookup method).getD [], directory)

/-- The references to a method. -/
def callersOf (directory : CallDirectory) (method : String) :
    List CallReference × CallDirectory :=
  let (keys, directory) := directory.calleeKeys method
  (keys.flatMap directory.index.referencesTo, directory)

/-- What can be asked about calls. -/
inductive Query where
  /-- The called methods that an identifier stands for. -/
  | keys (method : String)
  /-- The references to a method. -/
  | callers (method : String)
  /-- Whether exactly this method is called. -/
  | contains (method : String)
  /-- All called methods. -/
  | callees
  /-- The numbers of called methods and of references. -/
  | size
deriving DecidableEq, Repr

inductive Answer where
  | names (names : List String)
  | references (references : List CallReference)
  | truth (holds : Bool)
  | counts (callees references : Nat)
deriving DecidableEq, Repr

def ask (directory : CallDirectory) : Query → Answer × CallDirectory
  | .keys method =>
    let (keys, directory) := directory.calleeKeys method
    (.names keys, directory)
  | .callers method =>
    let (references, directory) := directory.callersOf method
    (.references references, directory)
  | .contains method => (.truth (directory.index.contains method), directory)
  | .callees => (.names directory.index.callees, directory)
  | .size => (.counts directory.index.callees.length directory.index.totalReferences, directory)

/-- Calls are added and asked about in any order. -/
inductive Request where
  | add (site : CallSite)
  | ask (query : Query)
deriving DecidableEq, Repr

/-- The numbers after a call was added, or the answer to a question. -/
def handle (directory : CallDirectory) : Request → Answer × CallDirectory
  | .add site => (directory.add site).ask .size
  | .ask query => directory.ask query

/-- The answers to requests, and the directory after them. -/
def run (directory : CallDirectory) : List Request → List Answer × CallDirectory
  | [] => ([], directory)
  | request :: requests =>
    let (answer, directory) := directory.handle request
    let (answers, directory) := directory.run requests
    (answer :: answers, directory)

end CallDirectory

end Ripple
