import PathRouting.Unicode.Casing.Context
import PathRouting.Unicode.Casing.Lower

/-!
Lower case of a text. Every character is lowered by itself, except a capital sigma, which becomes
a final sigma where it ends a word: a cased character stands before it and none after it, case
ignorable characters not counting.
-/

namespace PathRouting.Unicode

/-- Whether the first character that is not case ignorable is cased. -/
def meetsCased (cs : List Char) : Bool :=
  match cs.dropWhile isCaseIgnorable with
  | c :: _ => isCased c
  | [] => false

/-- The lower case of a text that follows `before`, which is given last character first. -/
def lowerAfter (before : List Char) : List Char → List Char
  | [] => []
  | c :: rest =>
    let lowered :=
      if c = 'Σ' then
        if meetsCased before && !meetsCased rest then ['ς'] else ['σ']
      else lowerChar c
    lowered ++ lowerAfter (c :: before) rest

/-- The lower case of a text. -/
def lowerText (cs : List Char) : List Char :=
  lowerAfter [] cs

end PathRouting.Unicode
