import PathRouting.Unicode.RunTable

/-!
The age of characters: the version of Unicode that added them. Versions are given by their place
among the versions that added characters.
-/

namespace PathRouting.Unicode

/-- The versions that added characters, in order. -/
def versions : List String := [
  "1.1", "2.0", "2.1", "3.0", "3.1", "3.2", "4.0", "4.1", "5.0", "5.1", "5.2", "6.0", "6.1", "6.2",
  "6.3", "7.0", "8.0", "9.0", "10.0", "11.0", "12.0", "12.1", "13.0", "14.0", "15.0", "15.1",
  "16.0", "17.0"]

/-- The version with the given loose name, such as `5.2` or `v52`. -/
def versionOfName? (name : String) : Option Nat :=
  versions.findIdx? fun version =>
    name = version || name.toList = 'v' :: version.toList.filter (· ≠ '.')

/-- The ages of all code points, in the first text form of tables. -/
def ageText : String := "
0V1.1 1f6V3.0 4V1.1 1eV3.0 8V3.2 1V4.0 1V3.0 12V4.0 3V4.1 bV5.0 eV1.1 59V3.0 5V4.0 2V1.1 2fV3.0
1V1.1 aV3.0 5V4.0 11V1.1 46V3.0 9V3.2 1V4.0 8V4.1 5V4.0 3V1.1 2V3.0 1V3.2 dV5.1 4V1.1 2V5.1 2None
2V1.1 1V5.0 3V1.1 1V7.0 1None 4V1.1 7None 1V1.1 1None 1V1.1 14None 1V1.1 2cV5.1 1V1.1 7V3.0 1V3.2
2V1.1 1V3.0 1V1.1 1V3.0 1V1.1 1V3.0 1V1.1 1V3.0 1V1.1 12V3.1 2V3.2 1V4.0 5V4.1 4V3.0 1V1.1 cV3.0
1V1.1 42V3.0 1V1.1 cV3.0 1V1.1 29V5.1 1V3.0 2V3.2 2V3.0 4V1.1 35V3.2 2V1.1 2V3.2 2V1.1 2V3.2 2V5.0
1V1.1 1cV3.0 2V1.1 8V4.1 2V1.1 2V5.0 6V3.2 10V5.0 4V5.1 10V5.2 2V6.0 2V7.0 8None 1V1.1 26None 2V1.1
7V11.0 1V1.1 27V11.0 1V1.1 1V3.0 1None 2V7.0 2V6.1 1None 1V2.0 11V4.1 1V2.0 dV1.1 aV5.0 1V1.1 9V2.0
1V4.1 3None 8V1.1 1bNone 4V11.0 1V1.1 5None bV4.0 4V6.1 1V7.0 1V5.1 5V4.1 1V1.1 1V4.0 9V5.1 5V1.1
1V6.3 1V14.0 1V4.1 1V1.1 1V6.0 1V1.1 1aV5.1 5V1.1 13V3.0 3V4.0 3V4.1 6V6.0 1V1.1 eV3.2 2V1.1 48V3.0
2V1.1 5V3.0 1V1.1 fV3.0 1V1.1 1eV4.0 2V1.1 aV3.0 5V4.0 1V3.0 eNone 1V3.0 1eV4.0 3V3.0 1bNone 2V4.0
3V4.1 1eV5.1 12V3.0 31V3.2 1None eV5.0 3bNone 2V11.0 3V5.2 2eNone 2V5.2 fNone 1V6.0 1cNone 2V6.0
1None 1V10.0 bNone 5V14.0 1fV17.0 1V14.0 2None 5V16.0 1V14.0 8V6.1 1V7.0 1V6.1 bV7.0 6V8.0 2V14.0
1V9.0 8V13.0 aV14.0 bV11.0 1V9.0 fV8.0 1V6.1 1bV7.0 1V5.2 1V1.1 3V4.0 1V1.1 35V6.0 2V1.1 12V5.2
1V6.0 1V1.1 5V5.2 1V6.0 2V1.1 19V5.1 2V6.0 5V7.0 1V5.2 2V5.0 2V4.1 1V5.0 2V7.0 1V1.1 3None 1V1.1
8None 2V1.1 2None 2V1.1 16None 1V1.1 7None 1V1.1 1None 3V1.1 4None 2V1.1 1V4.0 1V1.1 7None 2V1.1
2None 2V1.1 3V4.1 1None 8V1.1 1None 4V1.1 2None 1V1.1 5None 2V1.1 15V5.2 1V10.0 2V11.0 1None 2V4.0
1V1.1 1V4.0 1None 1V1.1 6None 4V1.1 2None 2V1.1 16None 1V1.1 7None 1V1.1 2None 1V1.1 2None 1V1.1
2None 2V1.1 1None 1V1.1 5None 4V1.1 2None 2V1.1 3None 3V5.1 1None 7V1.1 4None 1V1.1 1None 7V1.1
fV5.1 1V11.0 1None aV1.1 3None 1V1.1 7V4.0 1V1.1 1None 1V1.1 3None 1V1.1 16None 1V1.1 7None 1V1.1
2None 1V1.1 5None 2V1.1 aNone 1V1.1 3None 1V1.1 3None 2V1.1 1None fV1.1 1V4.0 3None 2V1.1 aV6.1
1V4.0 1None 7V8.0 1V10.0 6None 1V1.1 3None 1V1.1 8None 2V1.1 2None 2V1.1 16None 1V1.1 7None 1V1.1
2None 1V4.0 1V1.1 4None 2V1.1 8V5.1 1None 2V1.1 2None 2V1.1 3None 7V13.0 1V1.1 2None 4V1.1 2None
1V1.1 3V5.1 2None 2V1.1 bV4.0 1V6.0 6None aV1.1 2None 1V1.1 6None 3V1.1 3None 1V1.1 4None 3V1.1
2None 1V1.1 1None 1V1.1 2None 3V1.1 2None 3V1.1 3None 3V1.1 8V4.1 1V1.1 3None 4V1.1 5None 3V1.1
3None 1V1.1 4None 2V5.1 1None 6V1.1 1None eV4.1 1V1.1 cV4.0 8None 5V7.0 1V1.1 3V11.0 1V1.1 8None
1V1.1 3None 1V1.1 17None 1V1.1 aV7.0 1V1.1 5None 2V14.0 1V5.1 1V1.1 7None 1V1.1 3None 1V1.1 4None
7V1.1 2None 1V5.1 2V8.0 1None 1V17.0 1V14.0 1None 2V1.1 2V5.1 2None 2V1.1 aNone 7V12.0 1V5.1 8V9.0
1V7.0 1V1.1 2V11.0 1V1.1 8None 1V1.1 3None 1V1.1 17None 1V1.1 aNone 1V1.1 5None 2V4.0 2V1.1 7None
1V1.1 3None 1V1.1 4None 7V1.1 2None 5V17.0 1V14.0 1V1.1 1None 1V1.1 2V5.0 2None 2V1.1 aNone 1V5.0
2V15.0 1None cV10.0 1V7.0 1V1.1 2V13.0 1V1.1 8None 1V1.1 3None 1V1.1 17V6.0 1V1.1 10V6.0 1V10.0
2V5.1 1V1.1 6V5.1 1None 1V1.1 3None 1V1.1 4V6.0 1V9.0 1None 4V9.0 3V1.1 1V9.0 7V8.0 1V1.1 2V5.1
2None 2V1.1 aV5.1 6V9.0 3V5.1 7None 1V13.0 1V3.0 2None 1V3.0 12None 3V3.0 18None 1V3.0 9None 1V3.0
1None 2V3.0 7None 3V3.0 1None 4V3.0 6None 1V3.0 1None 1V3.0 8None 6V7.0 aNone 2V3.0 3None cV1.1
3aNone 4V1.1 1dNone 25V1.1 2None 1V1.1 1None 1V12.0 1V1.1 2V12.0 1V1.1 1None 1V12.0 1V1.1 1V12.0
6V1.1 4V12.0 1V1.1 7V12.0 1V1.1 3None 1V1.1 1None 1V1.1 1V12.0 2V1.1 2V12.0 1V1.1 dV12.0 1V1.1
3None 2V1.1 5None 1V1.1 1None 1V1.1 6V15.0 1None 1V1.1 aNone 2V1.1 2V6.1 2None 20V2.0 48None 1V2.0
21V3.0 1V5.1 2None 4V2.0 1bV6.0 4V2.0 6V3.0 1V2.0 1None 1V2.0 15V3.0 3V2.0 7V3.0 1V2.0 1V3.0 3None
1V3.0 fNone 1V5.1 1V3.0 1V4.1 2V5.1 3V5.2 4V6.0 2None 25V3.0 22V5.1 1V3.0 5V5.1 1V3.0 2V5.1 1V3.0
7V5.1 3V3.0 4V5.1 6V3.0 1aV5.1 40V5.2 4V5.1 2V1.1 26None 1V6.1 1None 5V6.1 1None 2V1.1 27V3.2 2V4.1
2V1.1 1V4.1 1V6.1 3V1.1 5aV5.2 5V1.1 44V5.2 5V1.1 52V5.2 6V3.0 7V4.1 1V3.0 3fV4.1 1V3.0 1None 1V3.0
4None 2V3.0 7None 1V3.0 1None 1V3.0 4None 2V3.0 27V4.1 1V3.0 1None 1V3.0 4None 2V3.0 1fV4.1 1V3.0
1None 1V3.0 4None 2V3.0 7None 1V3.0 1None 1V3.0 4None 2V3.0 7V4.1 1V3.0 7None 1V3.0 17V4.1 1V3.0
1fV4.1 1V3.0 1None 1V3.0 4None 2V3.0 7V4.1 1V3.0 27V4.1 1V3.0 13None 2V6.0 2V4.1 2V3.0 1cNone 3V4.1
1aNone 6V3.0 55V8.0 1None 2V8.0 6None 2V5.2 1V3.0 276V5.2 9V3.0 1dNone 3V3.0 51V7.0 8None 7V3.2
dV14.0 1V3.2 7V14.0 1None 9V14.0 1V3.2 17None 9V3.2 14None cV3.2 dNone 1V3.2 3None 1V3.2 2None
cV3.0 5dV4.0 1None 2V3.0 aNone 6V4.0 aNone 6V3.0 fV14.0 1V3.0 aNone 6V3.0 58V11.0 1None 7V3.0
2aV5.1 1None 5V5.2 46None aV4.0 1dV7.0 2None 1V4.0 cNone 4V4.0 cNone 4V4.0 1None 3V4.0 2aNone 2V4.0
5None bV4.1 2aV5.2 2None 4V4.1 1aNone 6V4.1 aV5.2 1None 3V4.1 2V4.0 20V4.1 1cNone 2V4.1 2V5.2
3fNone 1V5.2 1dNone 2V5.2 bNone 6V5.2 aNone 6V5.2 eNone 2V7.0 fV13.0 2V14.0 eV17.0 fNone 2V17.0
cNone 14V5.0 4cV14.0 1None 1V16.0 2V5.0 2dV14.0 2V16.0 1V5.1 2bV6.1 3V5.1 cV6.1 6V6.0 34None 8V6.0
4V5.1 38None 3V5.1 fNone 3V5.1 33V9.0 9V16.0 2None 5V11.0 2bNone 2V11.0 3V6.1 8None 8V5.2 23V6.1
4V10.0 1V7.0 2V12.0 1None 5V4.0 6cV4.1 58V5.0 7V5.1 1cV7.0 fV10.0 4V14.0 1V9.0 1V6.0 1V5.2 1V5.0
2V1.1 9bV2.0 1V5.1 4V1.1 5aV5.1 6V1.1 16None 2V1.1 6None 2V1.1 26None 2V1.1 6None 2V1.1 8None 1V1.1
1None 1V1.1 1None 1V1.1 1None 1V1.1 1fNone 2V1.1 35None 1V1.1 fNone 1V1.1 eNone 2V1.1 6None 1V1.1
13None 2V1.1 3None 1V1.1 9None 1V1.1 2fV3.0 1V1.1 17V3.2 1V3.0 6V3.2 5V4.0 2V4.1 2V3.2 1V4.1 7V3.2
5V5.1 1None 1V6.3 4V1.1 7V3.2 1None 2V1.1 1bNone 1V4.1 5V6.0 8None 3V1.1 bV2.0 1V2.1 1V3.0 3V3.2
2V4.1 4V5.2 3V6.0 1V6.2 1V7.0 3V8.0 1V10.0 1V14.0 1V17.0 1None eV1.1 12V3.0 2V3.2 7V4.1 1V5.0 4V5.1
1None fV1.1 39V3.0 2V4.0 1V4.1 1V3.2 fV4.1 1V5.0 2V5.1 1V5.2 3V1.1 30V3.0 1V5.0 1V5.1 4V5.2 1V8.0
2None 4V1.1 5bV3.0 9V3.2 cV1.1 f2V3.2 eV1.1 1V3.0 1V1.1 79V3.0 1V3.2 1V3.0 1eV3.2 34V4.0 2V4.1
bV5.0 cV5.2 1V6.0 bV7.0 7V9.0 4V10.0 1V1.1 25V3.0 2V16.0 3None 16V1.1 bNone 15V1.1 8bV3.2 14V4.0
1V1.1 96V3.2 aV1.1 50V3.0 8V3.2 8V1.1 14V4.0 2V3.2 2V4.1 1V3.0 1V1.1 56V3.0 2V3.2 cV4.1 2V3.2 aV4.0
8V4.1 bV5.1 1V5.2 2V4.0 2V4.1 10V5.0 1V5.1 aV5.2 3V5.1 4V5.2 aV6.0 1V5.2 13V6.0 1V5.2 1V6.0 4V5.2
18V7.0 1V1.1 4V6.0 1V1.1 4V6.0 2V1.1 1cV6.0 1V1.1 23V6.0 1V1.1 1V6.0 1V1.1 4V6.0 3V1.1 1V5.2 1V1.1
7V6.0 2V1.1 7V3.2 eV1.1 1fV6.0 3V1.1 18V6.0 1V1.1 eV6.0 1V4.1 7V5.0 4V6.1 1V5.1 1V6.1 1V6.0 2V3.2
1cV5.1 4V3.2 10V3.0 100V3.2 200V4.0 eV4.1 6V5.0 7V5.1 5V5.0 4V5.1 29V7.0 3V5.1 5V5.2 5V7.0 1aNone
2V7.0 20V17.0 1V13.0 1V7.0 22V11.0 3V7.0 cV12.0 1V7.0 8V10.0 1V11.0 19V8.0 4V11.0 fV12.0 1V4.1
2fV14.0 1V4.1 2fV14.0 1V5.0 dV5.1 3V5.2 1V5.1 3V5.0 4V5.1 6V5.2 2V4.1 6bV5.2 7V6.1 2None 5V4.1
2dNone 1V6.1 1None 5V6.1 1None 2V4.1 36V6.1 2None 7V4.1 1V6.0 1None eV6.0 1V4.1 17None 9V4.1 7None
1V4.1 7None 1V4.1 7None 1V4.1 7None 1V4.1 7None 1V4.1 7None 1V4.1 7None 1V4.1 7None 1V5.1 20V4.1
18V5.1 4V4.1 2V5.1 13V5.2 1V6.1 aV7.0 7V9.0 2V10.0 5V11.0 5V12.0 1V13.0 3V14.0 bNone 22V3.0 1aNone
1V3.0 59None cV3.0 d6None 1aV3.0 cV15.1 4V1.1 38V3.0 3V3.2 3V3.0 1V1.1 1None 1V1.1 54V3.2 2None
2V1.1 6V3.2 2V1.1 5eV3.2 1None 5V1.1 28V5.1 1V10.0 1V11.0 1None 1V1.1 5eNone 1V1.1 10V3.0 18V6.0
3V13.0 5V4.1 10V5.1 14V16.0 2None 9V15.1 1V3.2 10V1.1 1dV4.0 2None 1V1.1 24V5.2 cV4.0 1V3.2 fV1.1
1cV4.0 2V4.1 1V1.1 32V3.2 fV1.1 cV4.0 4V1.1 2fV12.1 1V1.1 77V4.0 4V1.1 63V4.0 2V1.1 1fV4.0 1V3.0
19b6V13.0 aV4.0 40V1.1 51a6V4.1 16V5.1 8V5.2 8V6.1 1V8.0 9V10.0 15V11.0 5V13.0 dV14.0 3V3.0 48dNone
3V3.0 12V3.2 2V3.0 10V3.2 1V3.0 cV3.2 1V3.0 3V3.2 1V3.0 1None 9V5.2 30V5.1 12cNone 14V5.1 20V6.0
2V5.1 12V6.1 8V5.1 1cV7.0 6V8.0 1V6.1 1V5.2 58None 8V4.1 17V5.0 4V5.1 5V5.0 2V5.1 6bV6.0 2V8.0
1V6.0 2V6.1 2V7.0 cV6.0 aV6.1 1V7.0 3V9.0 1V11.0 1V7.0 2V8.0 6V11.0 2V12.0 6V14.0 2V12.0 5V13.0
4V16.0 3V17.0 2V14.0 2V17.0 1V14.0 1V17.0 1V14.0 5V16.0 3None 14V17.0 1V14.0 3V13.0 2V7.0 1V6.1
2V6.0 1V5.1 5V4.1 2cV13.0 1None 3V5.2 aNone 6V5.0 38None 8V5.1 45V9.0 1None 8V5.1 cNone 6V5.2
1cV8.0 2V11.0 2V5.1 54None bV5.1 1V5.2 1dNone 3V5.2 4eNone 1V5.2 bNone 4V5.2 2V7.0 1fNone 1V5.1
37None 9V5.1 eNone 2V5.1 aNone 2V5.1 4V5.2 1cV7.0 4V5.2 43None 18V5.2 5V6.1 17None aV6.0 6None
2V6.0 6None 2V6.0 6None 9V6.0 7None 1V6.0 7None 1V7.0 30V8.0 4V7.0 2V12.0 2V13.0 4None 4V8.0 50V5.2
2eNone 2V5.2 aNone 6V2.0 2ba4None cV5.2 17None 4V5.2 31None 804V1.1 1a2eV6.1 2V3.2 3bV5.2 3None
2V4.1 6aNone 26V1.1 7None cV1.1 5None 5V3.0 1V1.1 19None 1V1.1 5None 1V1.1 1None 1V1.1 2None 1V1.1
2None 1V1.1 6cV6.0 10V14.0 1V17.0 10V1.1 16dV14.0 10V1.1 40V17.0 2V1.1 36V17.0 7V14.0 1V3.1 20V1.1
cV3.2 1V4.0 1V14.0 2V3.2 10V4.1 aNone 6V1.1 4V5.1 3V7.0 7V8.0 2V1.1 15V3.2 2V4.0 2V1.1 aNone 1V1.1
13None 1V1.1 4None 4V1.1 3V3.2 1V1.1 1None 1V1.1 87None 2V1.1 1None 1V1.1 5eV3.2 2V1.1 5eNone 3V1.1
6None 2V1.1 6None 2V1.1 6None 2V1.1 3None 3V1.1 7None 1V1.1 7None aV3.0 3V2.1 1V1.1 3V4.0 cNone
1V4.0 1aNone 1V4.0 13None 1V4.0 2None 1V4.0 fNone 2V4.0 eNone 22V4.0 7bNone 5V4.0 3None 4V4.0
2dNone 3V4.0 9V4.1 4bV7.0 2V9.0 2None 1V5.1 cV13.0 1None 3V7.0 1None 2fV5.1 2eNone 82V5.1 1dNone
3V5.1 31None fV7.0 1cNone 4V3.1 1fV7.0 1V3.1 4None 9V10.0 3V3.1 1bNone 5V7.0 2bNone 5V4.0 1eNone
1V4.0 1V4.1 24None 4V4.1 eNone 2aV3.1 26V4.0 2V3.1 26V4.0 50None 2V4.0 aNone 6V9.0 24None 4V9.0
24None 4V7.0 28None 8V7.0 34None bV7.0 1V14.0 bNone 1V14.0 fNone 1V14.0 7None 1V14.0 2None 1V14.0
bNone 1V14.0 fNone 1V14.0 7None 1V14.0 2None 3V16.0 34None cV7.0 137None 9V7.0 16None aV7.0 8None
18V14.0 6None 1V14.0 2aNone 1V14.0 9None 45V4.0 6None 2V4.0 1None 1V4.0 2cNone 1V4.0 2None 3V4.0
1None 2V4.0 1V5.2 16None 1V5.2 9V7.0 3fNone 8V7.0 9None 30V8.0 13None 1V8.0 2None 5V8.0 5V5.0
1aV5.2 2None 3V5.0 1V5.1 1aNone 5V5.1 1V17.0 1aNone 26V6.1 38None 4V8.0 2V6.1 2V8.0 10None 2V8.0
2eV4.1 4None 1V4.1 2None 5V4.1 8None 1V4.1 3None 1V4.1 1bV11.0 2None 2V4.1 3None 4V4.1 9V11.0 1None
7V4.1 9None 7V5.2 20V7.0 20None 20V7.0 27None 4V7.0 cNone 9V5.2 36None 3V5.2 1dNone 2V5.2 1bNone
5V5.2 8V7.0 12None 7V7.0 4None cV7.0 7None 50V5.2 49None 37V8.0 33None dV8.0 33None 7V8.0 6V11.0
28None 8V11.0 aNone 6V16.0 26None 3V16.0 1dNone 8V16.0 2None d0V5.2 1fNone 1V13.0 2aNone 1V13.0
3None 2V13.0 2None 10V16.0 3V17.0 3None 8V17.0 9None 21V17.0 2V16.0 1V15.0 3V11.0 28None 8V11.0
2aNone 16V14.0 1aNone 26V13.0 1cNone 14V12.0 17None 9V6.0 4eNone 4V6.0 1eV14.0 6None 9V7.0 1V5.2
42V14.0 1None aV11.0 1None 2V6.1 19None 7V6.1 aNone 6V6.1 35None 1V6.1 eV11.0 3V13.0 1None 8V7.0
27None 9V6.1 49V8.0 4V7.0 1V13.0 2V6.1 aV7.0 1V8.0 5None 1V7.0 14None bV7.0 12None 1V7.0 2bV9.0
1V15.0 3None 3eV8.0 7None 1V8.0 1None 1V8.0 4None 1V8.0 fNone 1V8.0 bNone 6V7.0 3bNone 5V7.0 aNone
6V8.0 1V7.0 3None 1V7.0 8None 2V7.0 2None 2V7.0 16None 1V7.0 7None 1V7.0 2None 1V7.0 5None 1V11.0
1V7.0 9None 2V7.0 2None 2V7.0 3None 2V8.0 1None 6V7.0 1None 5V7.0 7None 2V7.0 7None 3V7.0 5None
bV16.0 aNone 1V16.0 1None 2V16.0 1None 1V16.0 26None 1V16.0 aNone 1V16.0 1None 2V16.0 1None 1V16.0
4None 1V16.0 aNone 1V16.0 2None 8V16.0 2None 1dV9.0 5aV13.0 1V9.0 1None 1V9.0 1V11.0 1V12.0 1V13.0
2None 1eV7.0 48None 8V7.0 aNone a6V7.0 36None 2V7.0 12V8.0 14None 22V7.0 45None bV7.0 aNone 6V9.0
dNone 13V6.1 38V12.0 1V14.0 1None 6V6.1 aNone 6V16.0 14None 1cV8.0 1aV11.0 1None 2V8.0 fNone 4V8.0
10V14.0 7None b9V11.0 3cNone 64V7.0 53None cV7.0 1V13.0 7None 2V13.0 1None 2V13.0 8None 1V13.0
2None 1V13.0 1eNone 1V13.0 2None 2V13.0 cNone 9V13.0 aNone 46V12.0 8None 2V12.0 2eNone 2V12.0 bNone
1bV10.0 48None 8V10.0 34V12.0 2V10.0 17V11.0 1V10.0 5None dV14.0 10V7.0 39None 7V15.0 aNone 56V17.0
8None 58V16.0 22None eV16.0 aNone 6V9.0 9None 1V9.0 2dNone 1V9.0 eNone aV9.0 1dNone 3V9.0 20None
2V9.0 16None 1V9.0 eNone 49V10.0 7None 1V10.0 2None 1V10.0 2cNone 3V10.0 1None 1V10.0 2None 1V10.0
9None 8V10.0 aNone 6V11.0 6None 1V11.0 2None 1V11.0 25None 1V11.0 2None 1V11.0 6None 7V11.0 aNone
6V17.0 2cNone 4V17.0 aNone f6V11.0 19None 7V15.0 11None 1V15.0 29None 3V15.0 1cV16.0 1None 55V13.0
1None fV12.0 32None dV12.0 1V5.0 36fV7.0 2aV8.0 1None 66V5.0 63V7.0 cNone 1V5.0 4V7.0 1None bV8.0
c4None a4cV14.0 63None dV5.2 42fV15.0 1V12.0 9V15.0 1dNone aV16.0 f9bNone 5V8.0 247None 1ab9V16.0
3aNone 6c6V6.0 239None 7V7.0 1fNone 1V7.0 aNone 4V7.0 2V14.0 4fNone 1V14.0 aNone 6V7.0 1eNone 2V7.0
6None aV7.0 46None aV7.0 aNone 1V7.0 7None 1V7.0 15None 5V7.0 13None 1b0V16.0 3aNone c6V11.0 5bNone
5V17.0 19None 2V17.0 19None 2cV6.1 45V12.0 6None 4V12.0 1V6.1 2fV12.0 9None 7V6.1 11None 40V9.0
1V10.0 1V12.0 2V13.0 1None bV13.0 2V17.0 5None 9V9.0 17edV11.0 5V12.0 6V17.0 8V9.0 2f3V13.0 1e3None
29V16.0 1V13.0 9V17.0 16None 61V17.0 73None 21fdV14.0 4None 1V14.0 7None 1V14.0 2None 1V6.0 2V10.0
11dV14.0 4None fV15.0 1None 1dV12.0 3None 2V15.0 1None eV12.0 4None 8V10.0 18cNone 904V7.0 6bNone
5V7.0 dNone 3V7.0 9None 7V7.0 aNone 2V7.0 8None f5cV16.0 faV17.0 3None 3V16.0 1b4None 6V17.0 17None
fV17.0 11None fV14.0 2eNone 2V14.0 17None 9V14.0 74None 3cV3.1 f6None aV3.1 27None 2V5.1 1V3.1
b4V8.0 bV14.0 2None 15V4.1 46None 7aV15.0 14None cV11.0 14None cV4.0 57None 9V5.0 12V11.0 7None
87V3.1 55None 1V3.1 47None 1V3.1 2None 2V3.1 1None 2V3.1 2None 2V3.1 4None 1V3.1 cNone 1V3.1 1None
1V3.1 4V4.0 1V3.1 2None 1V3.1 41None 1V3.1 4None 2V3.1 8None 1V3.1 7None 1V3.1 1cNone 1V3.1 4None
1V3.1 5None 1V3.1 1None 3V3.1 7None 1V3.1 152V4.1 2None 2V3.1 122V5.0 2None 2V3.1 32V8.0 28cNone
fV8.0 5None 1V8.0 fNone 450V14.0 1fNone 6V15.0 6None d5V9.0 7None 1V9.0 11None 2V9.0 7None 1V9.0
2None 1V9.0 5None 5V15.0 3eNone 21V15.0 1None 70V12.0 2dNone 3V12.0 eNone 2V12.0 aNone 4V12.0 2None
140V14.0 1fNone 11V12.0 3aNone 5V12.0 1None 1d0V15.0 2aNone d6V16.0 2bNone 4V16.0 1None c0V17.0
1fNone 1V17.0 16None 8V17.0 2None e0V14.0 7None 1V14.0 4None 1V14.0 2None 1V14.0 fNone 1V7.0 c5None
2V7.0 10None 29V9.0 4bV12.0 1None 4V9.0 aNone 4V9.0 2None 311V11.0 44None 4cV12.0 3dNone c2V6.1
4None 1V6.1 1bNone 1V6.1 2None 1V6.1 1None 2V6.1 1None 1V6.1 aNone 1V6.1 4None 1V6.1 1None 1V6.1
1None 6V6.1 1None 4V6.1 1None 1V6.1 1None 1V6.1 1None 1V6.1 3None 1V6.1 2None 1V6.1 1None 2V6.1
1None 1V6.1 1None 1V6.1 1None 1V6.1 1None 1V6.1 1None 1V6.1 2None 1V6.1 1None 2V6.1 4None 1V6.1
7None 1V6.1 4None 1V6.1 4None 1V6.1 1None 1V6.1 aNone 1V6.1 11None 5V6.1 3None 1V6.1 5None 1V6.1
11None 34V6.1 2None 10eV5.1 2cNone 4V5.1 64None cV6.0 fNone 2V6.0 eV7.0 1None 1V6.0 fNone 1V6.0
fV7.0 16None aV5.2 bV7.0 2V13.0 3V5.2 1fV11.0 1V6.0 1V5.2 1V6.0 bV5.2 1V6.0 1V5.2 1V6.0 2V5.2 1V6.0
3V5.2 1V6.0 3V5.2 5V6.0 8V5.2 1V6.0 7V5.2 1V6.0 aV6.1 2V12.0 1V13.0 3V6.0 9V5.2 1V6.0 1V5.2 2V6.0
2V5.2 1V6.0 aV5.2 4V6.0 2V5.2 1V6.0 aV9.0 12V13.0 1None 38V6.0 1aV5.2 1V6.0 2None dV5.2 22V6.0
9V9.0 1None 4V5.2 9None 7V6.0 2None eV10.0 6None 9aV6.0 21V7.0 cV8.0 3V6.0 6V7.0 1V6.0 46V7.0 1V8.0
2V6.0 14V7.0 cV6.0 25V7.0 1V6.0 5V7.0 4V8.0 5V7.0 cV6.0 11V7.0 7V8.0 8V6.0 3fV7.0 1V6.0 1V7.0 1V6.0
b6V7.0 1V6.0 4V7.0 2V8.0 1V6.0 3eV7.0 2V6.1 4V7.0 7V8.0 5V6.0 18V7.0 12V9.0 1V7.0 29V9.0 1V7.0
56V6.0 5V6.1 1V6.0 10V6.1 1V6.0 3V6.1 1V6.0 1V6.1 1V6.0 1V6.1 1V6.0 1V6.1 1V6.0 3V6.1 1V6.0 6V6.1
2V6.0 4V6.1 1V6.0 1V6.1 2V6.0 4V6.1 1V6.0 cV7.0 2V8.0 2V6.0 bV7.0 30V6.0 46V7.0 aV8.0 1V9.0 2V10.0
2V12.0 1V13.0 2V17.0 1None 3V15.0 1V14.0 3V7.0 dNone 3V7.0 4V9.0 3V10.0 2V11.0 1V12.0 1V13.0 2None
3V6.0 74V15.0 3V17.0 4V15.0 5V7.0 55V11.0 4V15.0 1None 6V12.0 cNone 4V14.0 1None fV7.0 cNone 4V7.0
38None 8V7.0 aNone 6V7.0 28None 8V7.0 1eNone 2V13.0 2V16.0 aNone 4V16.0 2None eV17.0 9None 27V10.0
cV13.0 1V12.0 3V8.0 9V9.0 6V10.0 1V9.0 8V10.0 8V9.0 1V10.0 2V9.0 cV12.0 1V9.0 cV10.0 1V11.0 3V9.0
fV10.0 dV11.0 5V12.0 1V13.0 1V11.0 4V13.0 2V14.0 1V11.0 1V12.0 1V11.0 4V8.0 5V9.0 dV10.0 6V11.0
bV13.0 2V12.0 6V13.0 3V12.0 2V11.0 aV12.0 6V8.0 1V11.0 2V12.0 8V13.0 1V14.0 1V12.0 3V10.0 17V11.0
19V12.0 54V17.0 4None 8V11.0 eNone 2V12.0 4V13.0 1V15.0 3V12.0 3V14.0 2None 3V12.0 3V13.0 4V15.0
2V16.0 1V17.0 1None 3V17.0 1V16.0 1V12.0 6V13.0 13V14.0 4V15.0 3V13.0 7V14.0 4V15.0 3V16.0 1V15.0
1V13.0 3V14.0 3V16.0 1None 1V17.0 1None 4V17.0 1V15.0 2V13.0 7V14.0 3V15.0 2V16.0 1None 2V16.0
1V14.0 8V15.0 1V16.0 1V17.0 1None 4V17.0 1V14.0 7V15.0 2None 7V13.0 93None 1V13.0 37V16.0 25V13.0
aV17.0 1None 403V2.0 2V3.1 a6d7V13.0 7V14.0 2None 20V5.2 1035V14.0 4V15.0 1V17.0 6V6.0 deNone 2V8.0
1682V17.0 cNone 2V10.0 1d31None fV15.1 26eNone 9a2V3.1 21eNone 5e0V2.0 2V13.0 134bNone 5V15.0
1060V17.0 10caNone cb84V2.0 2None fffeV2.0 2None fffeV2.0 2None fffeV2.0 2None fffeV2.0 2None
fffeV2.0 2None fffeV2.0 2None fffeV2.0 2None fffeV2.0 2None fffeV2.0 2None fffeV2.0 2None 1V3.1
1None 1eV3.1 60None 80V4.0 f0None fe0eV2.0"

/-- The versions of the code points, and none for those not assigned. -/
def ageTable : RunTable (Option Nat) :=
  .ofNamedRuns (fun name => versions.findIdx? fun version => name = "V" ++ version) ageText

/-- The version that added the character, if it is assigned. -/
def age? (c : Char) : Option Nat :=
  (ageTable.find? c).getD none

end PathRouting.Unicode
