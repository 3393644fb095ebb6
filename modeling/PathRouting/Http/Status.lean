/-!
Status codes of responses.
-/

namespace PathRouting.Http

/-- A status code: a number of three digits. -/
structure Status where
  code : Nat
  three_digits : 100 ≤ code ∧ code ≤ 999
  deriving DecidableEq, Repr

namespace Status

/-- The status with the given code, if it has three digits. -/
def ofNat? (code : Nat) : Option Status :=
  if h : 100 ≤ code ∧ code ≤ 999 then some ⟨code, h⟩ else none

/-- The request was answered. -/
def ok : Status := ⟨200, by decide⟩

/-- Nothing answers to the path. -/
def notFound : Status := ⟨404, by decide⟩

/-- The request could not be answered for a reason that lies on this side. -/
def internalError : Status := ⟨500, by decide⟩

end Status

end PathRouting.Http
