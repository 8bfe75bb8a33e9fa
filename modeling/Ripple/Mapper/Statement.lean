-- SUMMARY: Mapper statements, and the four kinds of elements that hold them.
/-! # Mapper statements -/

namespace Ripple

/-- One statement of a mapper file. Its fields are texts, or values of `ν` where they are taken
over from a record as they are. -/
structure Statement (ν : Type := String) where
  moduleName : ν
  mapperPath : ν
  space : ν
  statementId : ν
  kind : ν
  rawSql : ν
deriving DecidableEq, Repr, Inhabited

namespace Statement

/-- What tells two statements apart: the namespace, the id and the file. -/
def identity (statement : Statement ν) : ν × ν × ν :=
  (statement.space, statement.statementId, statement.mapperPath)

/-- The kinds of statements, in the order in which they are collected. -/
def kinds : List String :=
  ["select", "insert", "update", "delete"]

end Statement

end Ripple
