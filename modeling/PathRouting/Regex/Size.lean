import PathRouting.Regex.Basic

/-!
The size of regular expressions. How many bytes an expression takes depends on the machine that it
compiles to, which is not described here: a `SizeLimit` is any test of expressions, and what is
proved about the limit holds for every one. `SizeLimit.standard` stands in for the machine where
expressions are run. It goes by an estimate, in which a class takes what its ranges take.
-/

namespace PathRouting.Regex

open PathRouting.Unicode

/-- A limit in bytes, and which expressions keep to it. -/
structure SizeLimit where
  bytes : Nat
  allows : Tree → Bool

/-! ### An estimate -/

/-- An estimate in bytes of what ranges of code points take. -/
def rangesWeight (ranges : List (Nat × Nat)) : Nat :=
  ranges.foldl (fun bytes range => bytes + if range.2 < 128 then 8 else 64) 0

/-- The number of ranges of a class of ASCII characters. -/
def AsciiClass.ranges : AsciiClass → Nat
  | .ascii | .digit | .graph | .lower | .print | .upper => 1
  | .alpha | .blank | .cntrl | .space => 2
  | .alnum | .xdigit => 3
  | .punct | .word => 4

/-- The ranges that a property is looked up in. -/
def propertyRanges (property : Property) : List (Nat × Nat) :=
  match property with
  | .any => [(0, 0x10ffff)]
  | .ascii => [(0, 127)]
  | .assigned => categoryTable.rangesWhere (· != .unassigned)
  | .categories of => categoryTable.rangesWhere fun category => decide (category ∈ of)
  | .script code => scriptTable.rangesWhere (· = code)
  | .scriptExtension code =>
    scriptTable.rangesWhere (· = code) ++
      scriptExtensionTable.rangesWhere fun codes => decide (code ∈ codes)
  | .age latest => ageTable.rangesWhere fun age => age.any (· ≤ latest)
  | .segmented into value => into.table.rangesWhere (· = value)
  | .binary name =>
    match name with
    | "Alphabetic" => alphabeticTable.runs.toList
    | "White_Space" => blankRanges
    | "Cased" => casedRanges
    | "Case_Ignorable" => caseIgnorableRanges
    | _ => ((binaryPropertyTables.lookup name).map (·.runs.toList)).getD []

/-- An estimate in bytes of what a set takes. A word of all scripts has some 770 ranges. -/
def CharSet.weight : CharSet → Nat
  | empty => 0
  | range first last => rangesWeight [(first.toNat, last.toNat)]
  | shorthand .word true => 64 * 770
  | shorthand .digit true => rangesWeight decimalDigitRanges
  | shorthand .space true => rangesWeight blankRanges
  | shorthand .word false => 8 * AsciiClass.word.ranges
  | shorthand .digit false => 8 * AsciiClass.digit.ranges
  | shorthand .space false => 8 * AsciiClass.space.ranges
  | ascii of => 8 * of.ranges
  | property of => rangesWeight (propertyRanges of)
  | union a b | inter a b | diff a b | symDiff a b => a.weight + b.weight
  | compl a => a.weight + 256
  | anyCase _ a => 2 * a.weight
  | bracketed a => a.weight

namespace Tree

/-- Whether only the empty text can match. -/
def onlyEmpty : Tree → Bool
  | empty | mode | look _ => true
  | set _ => false
  | group _ inner => inner.onlyEmpty
  | repeated inner _ most => most = some 0 || inner.onlyEmpty
  | seq a b | alt a b => a.onlyEmpty && b.onlyEmpty

/-- An estimate in bytes of the machine that the expression compiles to, with counted repetitions
written out. -/
def weight : Tree → Nat
  | empty | mode => 0
  | look _ => 32
  | set of => 32 + of.weight
  | group capturing inner => inner.weight + (if capturing then 64 else 0)
  | repeated inner least most =>
    if inner.onlyEmpty then inner.weight + 40
    else
      match most with
      | none => max least 1 * inner.weight + 40
      | some m => least * inner.weight + (m - least) * (inner.weight + 40)
  | seq a b => a.weight + b.weight
  | alt a b => a.weight + b.weight + 40

end Tree

/-- The limit of ten mebibytes, by the estimate. -/
def SizeLimit.standard : SizeLimit :=
  ⟨10485760, fun tree => tree.weight ≤ 10485760⟩

end PathRouting.Regex
