import Mathlib.Data.String.Basic
import PathRouting.Template.Position

/-!
Boundaries between the characters of a text, by the library's notion of a valid position.

Main statements: `isBoundary_toList_iff` (the positions at which a path can be cut are the valid
ones) and `between_of_append` (what lies between two of them).
-/

namespace PathRouting.Template

/-- The part of a text from one byte to another. -/
def between (source : String) (start stop : Nat) : String :=
  String.Pos.Raw.extract source ⟨start⟩ ⟨stop⟩

/-- What it is for a character of a text to begin at a byte, or for the text to end there. -/
def IsBoundary (source : String) (byte : Nat) : Prop :=
  String.Pos.Raw.IsValid source ⟨byte⟩

theorem byteSize_eq_utf8Len (cs : List Char) : byteSize cs = String.utf8Len cs := by
  induction cs with
  | nil => rfl
  | cons c rest ih =>
    rw [String.utf8Len_cons, ← ih, Nat.add_comm]
    rfl

theorem byteSize_toList (s : String) : byteSize s.toList = s.utf8ByteSize := by
  rw [byteSize_eq_utf8Len, ← String.utf8ByteSize_ofList, String.ofList_toList]

theorem isBoundary_of_append {source : String} {front back : List Char}
    (eq : source.toList = front ++ back) : IsBoundary source (byteSize front) := by
  refine String.Pos.Raw.isValid_iff_exists_append.mpr
    ⟨String.ofList front, String.ofList back, ?_, ?_⟩
  · rw [← String.toList_inj, eq]
    simp
  · rw [byteSize_eq_utf8Len, ← String.utf8ByteSize_ofList]
    rfl

theorem between_of_append {source : String} {front piece back : List Char}
    (eq : source.toList = front ++ piece ++ back) :
    between source (byteSize front) (byteSize front + byteSize piece) = String.ofList piece := by
  have whole : source = String.ofList (front ++ piece ++ back) := by
    rw [← eq, String.ofList_toList]
  rw [whole, between, byteSize_eq_utf8Len, byteSize_eq_utf8Len]
  exact String.extract_of_valid front piece back

/-- A path can be cut just at its valid positions. -/
theorem isBoundary_toList_iff {source : String} {byte : Nat} :
    isBoundary source.toList byte = true ↔ IsBoundary source byte := by
  rw [isBoundary_iff]
  constructor
  · rintro ⟨front, back, eq, rfl⟩
    exact isBoundary_of_append eq
  · intro valid
    obtain ⟨front, back, rfl, start⟩ := String.Pos.Raw.isValid_iff_exists_append.mp valid
    refine ⟨front.toList, back.toList, String.toList_append, ?_⟩
    rw [byteSize_toList]
    exact (congrArg String.Pos.Raw.byteIdx start).symm

end PathRouting.Template
