import PathRouting.Unicode.RunTable

/-!
Combining classes. Marks of different classes that follow a character may be written in either
order; characters of class zero start something new.
-/

namespace PathRouting.Unicode

/-- The combining classes of all code points, in the first text form of tables. The name of a class
is a capital followed by its number. -/
def combiningClassText : String := "
0C0 300C230 15C232 1C220 4C232 1C216 1C220 5C202 2C220 4C202 2C220 bC1 5C220 4C230 8C240 1C230
1C220 3C230 3C220 2C0 1C230 3C220 4C230 1C232 1C220 2C230 1C233 1C234 2C233 1C234 2C233 1C230 dC0
113C230 5C0 109C220 1C230 4C220 1C230 3C222 1C220 1C230 6C220 6C230 2C220 1C230 2C222 1C228 1C230
1C10 1C11 1C12 1C13 1C14 1C15 1C16 1C17 1C18 1C19 2C20 1C21 1C22 1C0 1C23 1C0 1C24 1C25 1C0 1C230
1C220 1C0 1C18 1C0 48C230 8C30 1C31 1C32 1C0 30C27 1C28 1C29 1C30 1C31 1C32 1C33 1C34 1C230 2C220
2C230 5C220 1C230 2C220 1C0 10C35 1C0 65C230 7C0 2C230 4C220 1C230 1C0 2C230 2C0 1C220 1C230 2C220
1C0 23C36 1C0 1eC230 1C220 1C230 2C220 1C230 2C220 3C230 1C220 2C230 1C220 1C230 3C220 1C230 1C220
1C230 1C220 1C230 1C220 1C230 2C0 a0C230 7C220 1C230 1C0 9C220 1C0 18C230 4C0 1C230 9C0 1C230 3C0
1C230 5C0 2bC220 3C0 3cC230 1C220 3C230 4C0 2aC230 5C220 5C230 eC0 1C220 1C230 2C220 1C230 2C220
1C230 3C220 3C27 1C28 1C29 1C230 3C220 1C230 2C220 2C230 5C0 3cC7 1C0 10C9 1C0 3C230 1C220 1C230
2C0 67C7 1C0 10C9 1C0 30C230 1C0 3dC7 1C0 10C9 1C0 6eC7 1C0 10C9 1C0 6eC7 1C0 10C9 1C0 7fC9 1C0
6eC7 1C0 10C9 1C0 7C84 1C91 1C0 65C7 1C0 10C9 1C0 6dC9 2C0 10C9 1C0 7cC9 1C0 6dC103 2C9 1C0 dC107
4C0 6cC118 2C9 1C0 dC122 4C0 4cC220 2C0 1bC220 1C0 1C220 1C0 1C216 1C0 37C129 1C130 1C0 1C132 1C0
5C130 4C0 2C130 1C0 1C230 2C9 1C0 1C230 2C0 3eC220 1C0 70C7 1C0 1C9 2C0 52C220 1C0 2cfC230 3C0
3b4C9 2C0 1eC9 1C0 9dC9 1C0 aC230 1C0 cbC228 1C0 8fC222 1C230 1C220 1C0 dbC230 1C220 1C0 47C9 1C0
14C230 8C0 2C220 1C0 30C230 5C220 6C230 2C220 1C0 1C220 2C230 2C220 2C230 5C220 1C230 4C0 65C7 1C0
fC9 1C0 26C230 1C220 1C230 7C0 36C9 2C0 3aC7 1C0 bC9 2C0 43C7 1C0 98C230 3C0 1C1 1C220 5C230 2C220
4C230 1C0 1C1 7C0 4C220 1C0 6C230 1C0 3C230 2C0 c6C230 2C220 1C230 7C220 1C230 2C234 1C214 1C220
1C202 1C230 25C232 1C228 2C220 1C218 1C230 1C233 1C220 1C230 1C220 1C0 2d0C230 2C1 2C230 4C1 3C230
2C0 4C230 1C0 3C1 2C230 1C220 1C230 1C1 2C220 4C230 1C0 bfeC230 3C0 8dC9 1C0 60C230 20C0 22aC218
1C228 1C232 1C222 1C224 2C0 69C8 2C0 75d4C230 1C0 4C230 aC0 20C230 2C0 50C230 2C0 114C9 1C0 25C9
1C0 97C9 1C0 1bC230 12C0 39C220 3C0 25C9 1C0 5fC7 1C0 cC9 1C0 efC230 1C0 1C230 2C220 1C0 2C230 2C0
5C230 2C0 1C230 1C0 34C9 1C0 f6C9 1C0 4f30C26 1C0 301C230 7C220 7C230 2C0 3cdC220 1C0 e2C220 1C0
95C230 5C0 692C220 1C0 1C230 1C0 28C230 1C1 1C220 1C0 4C9 1C0 a5C230 1C220 1C0 23dC230 4C0 183C230
2C0 50C220 3C0 46C220 2C230 3C220 1C230 1C220 4C0 31C230 1C220 1C230 1C220 1C0 c0C9 1C0 29C9 1C0
eC9 1C0 39C9 1C7 1C0 45C230 3C0 30C9 2C0 3eC7 1C0 4cC9 1C0 9C7 1C0 6aC9 1C7 1C0 b2C7 1C9 1C0 50C7
2C0 10C9 1C0 18C230 7C0 3C230 5C0 cdC9 1C0 3C7 1C0 17C230 1C0 63C9 1C7 1C0 fbC9 1C7 1C0 7eC9 1C0
76C9 1C7 1C0 73C9 1C0 10dC9 1C7 1C0 102C9 2C0 4C7 1C0 9cC9 1C0 53C9 1C0 12C9 1C0 51C9 1C0 1a5C9
1C0 102C7 1C0 1C9 2C0 51C9 1C0 1a9C9 2C0 4badC1 5C0 3bC230 7C0 4b9C6 2C0 4cacC1 1C0 14c6C216 2C1
3C0 3C226 1C216 5C0 8C220 8C0 2C230 5C220 2C0 1eC230 4C0 94C230 3C0 dbbC230 7C0 1C230 11C0 2C230
7C0 1C230 2C0 1C230 5C0 64C230 1C0 a0C230 7C0 177C230 1C0 3dC230 4C0 1fcC232 2C220 1C230 1C0
3e0C220 7C0 6dC230 6C7 1C0 f16b5C0"

/-- The combining classes of all code points. -/
def combiningClassTable : RunTable Nat :=
  .ofNamedRuns
    (fun name => (name.toList.drop 1).foldl (fun n c => 10 * n + (c.toNat - 48)) 0)
    combiningClassText

/-- The combining class of a character. -/
def combiningClass (c : Char) : Nat :=
  (combiningClassTable.find? c).getD 0

/-- The class of marks that silence the vowel of a letter. -/
def viramaClass : Nat := 9

end PathRouting.Unicode
