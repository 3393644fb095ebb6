import PathRouting.Unicode.RunTable

/-!
What characters are for the cutting of text into graphemes, words and sentences. Each of the three
gives every character one value, named by its short name; `XX` is the value of the characters that
are nothing special.
-/

namespace PathRouting.Unicode

/-- What text is cut into. -/
inductive Segmentation where
  | grapheme
  | word
  | sentence
  deriving DecidableEq, Repr

/-- The values of all code points for graphemes, in the first text form of tables. -/
def graphemeText : String := "
0CN aLF 1CN 2CR 1CN 12XX 5fCN 21XX dCN 1XX 252EX 70XX 113EX 7XX 107EX 2dXX 1EX 1XX 1EX 2XX 1EX 2XX
1EX 1XX 38PP 6XX aEX bXX 1CN 1XX 2eEX 15XX 10EX 1XX 65EX 7PP 1XX 1EX 6XX 2EX 2XX 1EX 4XX 21PP 1XX
1EX 1XX 1eEX 1bXX 5bEX bXX 3aEX 9XX 9EX 1XX 18EX 4XX 1EX 9XX 1EX 3XX 1EX 5XX 2bEX 3XX 34PP 2XX 5EX
9XX 2aEX 18PP 1EX 20SM 1XX 36EX 1SM 1EX 1XX 1SM 3EX 8SM 4EX 1SM 2XX 1EX 7XX aEX 2XX 1dEX 1SM 2XX
38EX 1XX 1EX 1SM 2EX 4XX 2SM 2XX 2SM 2EX 1XX 9EX 1XX aEX 2XX 1aEX 1XX 2EX 2SM 1XX 38EX 1XX 1SM 3EX
2XX 4EX 2XX 2EX 3XX 3EX 1XX 1eEX 2XX 3EX 1XX bEX 2SM 1XX 38EX 1XX 1SM 3EX 5XX 1EX 2SM 1XX 1SM 2EX
1XX 14EX 2XX 16EX 6XX 1EX 1SM 2XX 38EX 1XX 1EX 2SM 1EX 4XX 2SM 2XX 2SM 2EX 1XX 7EX 3XX aEX 2XX 1eEX
1XX 3bEX 1SM 1EX 1SM 2XX 3SM 3XX 1SM 3EX 1XX 9EX 1XX 28EX 1SM 3EX 1XX 37EX 1XX 1EX 3SM 4XX 1EX 3XX
1EX 4XX 7EX 2XX bEX 2XX 1dEX 1SM 2XX 38EX 1XX 1SM 1EX 2SM 1EX 1SM 2XX 1EX 3XX 1EX 4XX 7EX 2XX bEX
2XX fSM 1XX cEX 2SM 2XX 37EX 2XX 1EX 1SM 2EX 4XX 1SM 3XX 1SM 3EX 1PP 1XX 8EX 1XX aEX 2XX 1dEX 1SM
2XX 46EX 1XX 4EX 1SM 2EX 3XX 1EX 1XX 1SM 7EX 1XX 12SM 2XX 3dEX 1XX 1SM 1EX 7XX cEX 8XX 62EX 1XX 1SM
1EX 9XX bEX 7XX 49EX 2XX 1bEX 1XX 1EX 1XX 1EX 1XX 4SM 2XX 31EX eSM 1EX 5XX 1EX 2XX 5EX bXX 1EX 24XX
9EX 1XX 66EX 4SM 1EX 6XX 1EX 2SM 2EX 2XX 17SM 2EX 2XX 4EX 3XX 10EX 4XX dEX 1XX 1SM 1EX 2XX 6EX 1XX
fEX 1XX 62L 60V 48T 58XX 15dEX 3XX 3b2EX 4XX 1cEX 3XX 1dEX 2XX 1eEX 2XX 40EX 2SM 1EX 7SM 8EX 1SM
2EX bXX 9EX 1XX 2dEX 3CN 1EX 1XX 75EX 2XX 22EX 1XX 76EX 3SM 4EX 2SM 3XX 4SM 2EX 1SM 6EX 3XX dbEX
2SM 2EX 1XX 39SM 1EX 1SM 1EX 7XX 1EX 1XX 1EX 1XX 2EX 8SM 6EX aXX 2EX 1XX 30EX 2eXX 2EX cXX 14EX 4SM
1XX 2fEX aSM 4EX 3XX 26EX 9XX cEX 2SM 1XX 1eSM 1EX 4SM 2EX 6XX 38EX 1SM 1EX 2SM 3EX 1SM 1EX 5XX
30SM 8EX 8SM 2EX 2XX 98EX 3XX 1EX dSM 1EX 7XX 4EX 1XX 6EX 1XX 2SM 1EX 2XX c6EX 40XX 20bCN 1EX 1ZWJ
1CN 2XX 18CN 7XX 31CN 10XX 60EX 21XX bfeEX 3XX 8dEX 1XX 60EX 20XX 22aEX 6XX 69EX 2XX 75d4EX 4XX 1EX
aXX 20EX 2XX 50EX 2XX 110EX 1XX 3EX 1XX 4EX 1XX 17SM 2EX 2SM 1XX 4EX 1XX 53SM 2XX 32SM 10EX 2XX
1aEX 12XX dEX 1XX 26EX 8XX 19EX bSM 1EX 1XX cL 1dXX 3EX 3SM 1XX 2fEX 1SM 2EX 4SM 2EX 2SM 2EX 1XX
24EX 1XX 43EX 6SM 2EX 2SM 2EX 2XX cEX 1XX 8EX 1SM 1XX 2eEX 1XX 33EX 1XX 1EX 3XX 2EX 2XX 5EX 2XX 1EX
1XX 29SM 1EX 2SM 2XX 5SM 1EX 1XX ecSM 2EX 1SM 2EX 1SM 2XX 1SM 1EX 1XX 12LV 1LVT 1bLV 1LVT 1bLV 1LVT
1bLV 1LVT 1bLV 1LVT 1bLV 1LVT 1bLV 1LVT 1bLV 1LVT 1bLV 1LVT 1bLV 1LVT 1bLV 1LVT 1bLV 1LVT 1bLV 1LVT
1bLV 1LVT 1bLV 1LVT 1bLV 1LVT 1bLV 1LVT 1bLV 1LVT 1bLV 1LVT 1bLV 1LVT 1bLV 1LVT 1bLV 1LVT 1bLV 1LVT
1bLV 1LVT 1bLV 1LVT 1bLV 1LVT 1bLV 1LVT 1bLV 1LVT 1bLV 1LVT 1bLV 1LVT 1bLV 1LVT 1bLV 1LVT 1bLV 1LVT
1bLV 1LVT 1bLV 1LVT 1bLV 1LVT 1bLV 1LVT 1bLV 1LVT 1bLV 1LVT 1bLV 1LVT 1bLV 1LVT 1bLV 1LVT 1bLV 1LVT
1bLV 1LVT 1bLV 1LVT 1bLV 1LVT 1bLV 1LVT 1bLV 1LVT 1bLV 1LVT 1bLV 1LVT 1bLV 1LVT 1bLV 1LVT 1bLV 1LVT
1bLV 1LVT 1bLV 1LVT 1bLV 1LVT 1bLV 1LVT 1bLV 1LVT 1bLV 1LVT 1bLV 1LVT 1bLV 1LVT 1bLV 1LVT 1bLV 1LVT
1bLV 1LVT 1bLV 1LVT 1bLV 1LVT 1bLV 1LVT 1bLV 1LVT 1bLV 1LVT 1bLV 1LVT 1bLV 1LVT 1bLV 1LVT 1bLV 1LVT
1bLV 1LVT 1bLV 1LVT 1bLV 1LVT 1bLV 1LVT 1bLV 1LVT 1bLV 1LVT 1bLV 1LVT 1bLV 1LVT 1bLV 1LVT 1bLV 1LVT
1bLV 1LVT 1bLV 1LVT 1bLV 1LVT 1bLV 1LVT 1bLV 1LVT 1bLV 1LVT 1bLV 1LVT 1bLV 1LVT 1bLV 1LVT 1bLV 1LVT
1bLV 1LVT 1bLV 1LVT 1bLV 1LVT 1bLV 1LVT 1bLV 1LVT 1bLV 1LVT 1bLV 1LVT 1bLV 1LVT 1bLV 1LVT 1bLV 1LVT
1bLV 1LVT 1bLV 1LVT 1bLV 1LVT 1bLV 1LVT 1bLV 1LVT 1bLV 1LVT 1bLV 1LVT 1bLV 1LVT 1bLV 1LVT 1bLV 1LVT
1bLV 1LVT 1bLV 1LVT 1bLV 1LVT 1bLV 1LVT 1bLV 1LVT 1bLV 1LVT 1bLV 1LVT 1bLV 1LVT 1bLV 1LVT 1bLV 1LVT
1bLV 1LVT 1bLV 1LVT 1bLV 1LVT 1bLV 1LVT 1bLV 1LVT 1bLV 1LVT 1bLV 1LVT 1bLV 1LVT 1bLV 1LVT 1bLV 1LVT
1bLV 1LVT 1bLV 1LVT 1bLV 1LVT 1bLV 1LVT 1bLV 1LVT 1bLV 1LVT 1bLV 1LVT 1bLV 1LVT 1bLV 1LVT 1bLV 1LVT
1bLV 1LVT 1bLV 1LVT 1bLV 1LVT 1bLV 1LVT 1bLV 1LVT 1bLV 1LVT 1bLV 1LVT 1bLV 1LVT 1bLV 1LVT 1bLV 1LVT
1bLV 1LVT 1bLV 1LVT 1bLV 1LVT 1bLV 1LVT 1bLV 1LVT 1bLV 1LVT 1bLV 1LVT 1bLV 1LVT 1bLV 1LVT 1bLV 1LVT
1bLV 1LVT 1bLV 1LVT 1bLV 1LVT 1bLV 1LVT 1bLV 1LVT 1bLV 1LVT 1bLV 1LVT 1bLV 1LVT 1bLV 1LVT 1bLV 1LVT
1bLV 1LVT 1bLV 1LVT 1bLV 1LVT 1bLV 1LVT 1bLV 1LVT 1bLV 1LVT 1bLV 1LVT 1bLV 1LVT 1bLV 1LVT 1bLV 1LVT
1bLV 1LVT 1bLV 1LVT 1bLV 1LVT 1bLV 1LVT 1bLV 1LVT 1bLV 1LVT 1bLV 1LVT 1bLV 1LVT 1bLV 1LVT 1bLV 1LVT
1bLV 1LVT 1bLV 1LVT 1bLV 1LVT 1bLV 1LVT 1bLV 1LVT 1bLV 1LVT 1bLV 1LVT 1bLV 1LVT 1bLV 1LVT 1bLV 1LVT
1bLV 1LVT 1bLV 1LVT 1bLV 1LVT 1bLV 1LVT 1bLV 1LVT 1bLV 1LVT 1bLV 1LVT 1bLV 1LVT 1bLV 1LVT 1bLV 1LVT
1bLV 1LVT 1bLV 1LVT 1bLV 1LVT 1bLV 1LVT 1bLV 1LVT 1bLV 1LVT 1bLV 1LVT 1bLV 1LVT 1bLV 1LVT 1bLV 1LVT
1bLV 1LVT 1bLV 1LVT 1bLV 1LVT 1bLV 1LVT 1bLV 1LVT 1bLV 1LVT 1bLV 1LVT 1bLV 1LVT 1bLV 1LVT 1bLV 1LVT
1bLV 1LVT 1bLV 1LVT 1bLV 1LVT 1bLV 1LVT 1bLV 1LVT 1bLV 1LVT 1bLV 1LVT 1bLV 1LVT 1bLV 1LVT 1bLV 1LVT
1bLV 1LVT 1bLV 1LVT 1bLV 1LVT 1bLV 1LVT 1bLV 1LVT 1bLV 1LVT 1bLV 1LVT 1bLV 1LVT 1bLV 1LVT 1bLV 1LVT
1bLV 1LVT 1bLV 1LVT 1bLV 1LVT 1bLV 1LVT 1bLV 1LVT 1bLV 1LVT 1bLV 1LVT 1bLV 1LVT 1bLV 1LVT 1bLV 1LVT
1bLV 1LVT 1bLV 1LVT 1bLV 1LVT 1bLV 1LVT 1bLV 1LVT 1bLV 1LVT 1bLV 1LVT 1bLV 1LVT 1bLV 1LVT 1bLV 1LVT
1bLV 1LVT 1bLV 1LVT 1bLV 1LVT 1bLV 1LVT 1bLV 1LVT 1bLV 1LVT 1bLV 1LVT 1bLV 1LVT 1bLV 1LVT 1bLV 1LVT
1bLV 1LVT 1bLV 1LVT 1bLV 1LVT 1bLV 1LVT 1bLV 1LVT 1bLV 1LVT 1bLV 1LVT 1bLV 1LVT 1bLV 1LVT 1bLV 1LVT
1bLV 1LVT 1bLV 1LVT 1bLV 1LVT 1bLV 1LVT 1bLV 1LVT 1bLV 1LVT 1bLV 1LVT 1bLV 1LVT 1bLV 1LVT 1bLV 1LVT
1bLV 1LVT 1bLV 1LVT 1bLV 1LVT 1bLV 1LVT 1bLV 1LVT 1bLV 1LVT 1bLV 1LVT 1bLV 1LVT 1bLV 1LVT 1bLV 1LVT
1bLV 1LVT 1bLV 1LVT 1bLV 1LVT 1bLV 1LVT 1bLV 1LVT 1bLV 1LVT 1bLV 1LVT 1bLV 1LVT 1bLV 1LVT 1bLV 1LVT
1bLV 1LVT 1bLV 1LVT 1bLV 1LVT 1bLV 1LVT 1bLV 1LVT 1bLV 1LVT 1bLV 1LVT 1bLV 1LVT 1bLV 1LVT 1bLV 1LVT
1bLV 1LVT 1bLV 1LVT 1bLV 1LVT 1bLV 1LVT 1bLV 1LVT 1bLV 1LVT 1bLV 1LVT 1bLV 1LVT 1bLV 1LVT 1bLV 1LVT
1bLV 1LVT 1bLV 1LVT 1bLV 1LVT 1bLV 1LVT 1bLV 1LVT 1bLV 1LVT 1bLV 1LVT 1bLV 1LVT 1bLV 1LVT 1bLV 1LVT
1bLV 1LVT 1bLV 1LVT 1bLV 1LVT 1bLV 1LVT 1bLV 1LVT 1bLV 1LVT 1bLV 1LVT 1bLV 1LVT 1bLV 1LVT 1bLV 1LVT
1bLV 1LVT 1bLV 1LVT 1bLV 1LVT 1bLV 1LVT 1bLV 1LVT 1bLV 1LVT 1bLV 1LVT 1bLV 1LVT 1bLV 1LVT 1bLV 1LVT
1bLV 1LVT 1bLV 1LVT 1bLV 1LVT 1bLV 1LVT 1bLV 1LVT 1bLV 1LVT 1bLV 1LVT 1bLV 1LVT 1bLV 1LVT 1bLV 1LVT
1bLV 1LVT 1bLV 1LVT 1bLV 1LVT 1bLV 1LVT 1bLV 1LVT 1bLV 1LVT 1bLV 1LVT 1bLV 1LVT 1bLV 1LVT 1bLV 1LVT
1bLV 1LVT 1bLV 1LVT 1bLV 1LVT 1bLV 1LVT 1bLV 1LVT 1bLV 1LVT 1bXX cV 17XX 4T 31XX 2322EX 1XX 2e1EX
10XX 10EX 10XX cfCN 1XX 9eEX 2XX 50CN cXX 201EX 1XX e2EX 1XX 95EX 5XX 686EX 3XX 1EX 2XX 5EX 4XX
28EX 3XX 4EX 1XX a5EX 2XX 23dEX 4XX 41EX 5XX 13dEX 2XX 4dEX 6XX 46EX bXX 31EX 4XX 7aSM 1EX 1SM 1XX
35EX fXX 29EX 1XX 2EX 2XX aEX 3SM 1XX 2dSM 3EX 4SM 2EX 2XX 2PP 1XX 4EX 1XX aPP 1XX 32EX 3XX 24EX
5SM 1EX 8XX 10SM 2XX 2cEX 1XX cEX 2SM 1XX 30SM 3EX 9SM 1EX 1XX 1PP 2XX 5EX 4XX 1SM 1EX 1XX 5cSM 3EX
3SM 2EX 4XX 6EX 1XX 2EX 1XX 9dEX 1SM 3EX 8XX 15EX 2SM 2XX 37EX 2XX 1EX 1SM 1EX 1SM 4XX 2SM 2XX 2SM
2EX 1XX 9EX 1XX aSM 2XX 2EX 7XX 3EX 5XX 43EX 1SM 2EX 6XX 1EX 1XX 2EX 1XX 1EX 3SM 1XX 1SM 2EX 3PP
1EX 1XX eEX 2XX 52SM 3EX 8SM 2EX 3SM 1EX 1XX 17EX 1XX 51EX 1SM 2EX 6SM 1EX 1SM 2EX 1SM 1EX 2SM 1EX
2XX ebEX 1SM 2EX 4XX 2SM 4EX 2SM 1EX 2XX 1bEX 2XX 52SM 3EX 8SM 2EX 1SM 1EX 2XX 6aEX 1SM 1EX 1SM 2EX
8XX 65EX 1SM 1EX 1XX 2EX 4SM 1EX 5XX 100SM 3EX 9SM 1EX 2XX f5EX 1SM 5XX 1SM 2XX 2EX 4PP 1SM 1PP 1SM
1EX 1XX 8dSM 3EX 4XX 2EX 2SM 4EX 1XX 3SM 1XX 1cEX aXX 28EX 6SM 1XX 1EX 4XX 8EX 1XX 9EX 6SM 2EX 3XX
28PP 6EX dSM 1EX 2XX c6EX 1SM 1EX 3SM 1EX 1SM 1XX c7SM 1EX 7XX 1EX 6SM 1EX 1XX 52EX 16XX 1SM 1EX
7SM 1EX 2SM 1EX 2XX 7aEX 6XX 3EX 1XX 1EX 2XX 1EX 7PP 1EX 1XX 42SM 5XX 1EX 2XX 1SM 2EX 1SM 1EX 1XX
15bEX 2SM 2XX 9EX 2PP 1SM 1XX 30SM 2EX 5XX 3SM 2EX 3XX 17EX 1XX 14d5CN 10EX 1XX 6EX fXX 2cc8EX cSM
3EX 3XX 9c0EX 5XX 3bEX 7XX 22cV 1XX 3V 4XX 1e4EX 1XX 1SM 37XX 7EX 4XX 51EX 1XX bEX 2XX 4cabEX 2XX
1CN 4XX 125cEX 2eXX 2EX 17XX 21eEX 5XX 3EX 6CN 8EX 8XX 2EX 7XX 1eEX 4XX 94EX 3XX 7bbEX 37XX 4EX
32XX 8EX 1XX eEX 1XX 16EX 5XX 1EX fXX 550EX 7XX 1EX 11XX 2EX 7XX 1EX 2XX 1EX 5XX 64EX 1XX a0EX 7XX
177EX 1XX 3dEX 4XX 1fcEX 4XX feEX 2XX f3EX 1XX 2EX 1XX 7EX 2XX 5EX 1XX 1daEX 7XX 6dEX 7XX 89bRI
1aXX 1fbEX 5XX c0c00CN 20EX 60CN 80EX f0CN e10XX"

/-- The values of all code points for words, in the first text form of tables. -/
def wordText : String := "
0XX aLF 1NL 2CR 1XX 12WSegSpace 1XX 1DQ 1XX 4SQ 1XX 4MN 1XX 1MB 1XX 1NU aML 1MN 1XX 5LE 1aXX 4EX
1XX 1LE 1aXX aNL 1XX 24LE 1XX 2FO 1XX 7LE 1XX 1ML 1LE 1XX 1LE 1XX 5LE 17XX 1LE 1fXX 1LE 1e0XX 6LE
22Extend 70LE 5XX 1LE 2XX 2LE 4MN 1LE 1XX 6LE 1ML 1LE 3XX 1LE 1XX 1LE 14XX 1LE 53XX 1LE 8bXX
1Extend 7LE a6XX 1LE 26XX 2LE 4XX 1LE 1ML 1LE 29MN 1LE 1XX 6Extend 2dXX 1Extend 1XX 1Extend 2XX
1Extend 2XX 1Extend 1XX 8HL 1bXX 4HL 4LE 1ML 1XX bNU 6XX 6MN 2XX 2Extend bXX 1FO 1XX 3LE 2bExtend
15NU aXX 1NU 1MN 1XX 1LE 2Extend 1LE 63XX 1LE 1Extend 7NU 1XX 1Extend 6LE 2Extend 2XX 1Extend 4LE
2NU aLE 3XX 2LE 1XX fLE 2Extend 1LE 1eExtend 1bXX 2LE 59Extend bLE 1XX eNU aLE 21Extend 9LE 2XX 2MN
1XX 1LE 1XX 2Extend 1XX 2LE 16Extend 4LE 1Extend 9LE 1Extend 3LE 1Extend 5XX 12LE 19Extend 3XX 4LE
bXX 5LE 18XX 1LE 7NU 2XX 5Extend 9LE 2aExtend 18NU 1Extend 21LE 36Extend 3LE 1Extend 12LE 1Extend
7LE aExtend 2XX 2NU aXX 1LE 10Extend 3XX 1LE 8XX 2LE 2XX 2LE 16XX 1LE 7XX 1LE 1XX 3LE 4XX 2Extend
1LE 1Extend 7XX 2Extend 2XX 2Extend 3LE 1XX 8Extend 1XX 4LE 2XX 1LE 3Extend 2XX 2NU aLE 2XX aLE 1XX
1Extend 1XX 2Extend 3XX 1LE 6XX 4LE 2XX 2LE 16XX 1LE 7XX 1LE 2XX 1LE 2XX 1LE 2XX 2Extend 1XX
1Extend 5XX 4Extend 2XX 2Extend 3XX 3Extend 1XX 7LE 4XX 1LE 1XX 7NU aExtend 2LE 3Extend 1XX bExtend
3XX 1LE 9XX 1LE 3XX 1LE 16XX 1LE 7XX 1LE 2XX 1LE 5XX 2Extend 1LE 1Extend 8XX 1Extend 3XX 1Extend
3XX 2LE 1XX fLE 2Extend 2XX 2NU aXX 9LE 1Extend 6XX 1Extend 3XX 1LE 8XX 2LE 2XX 2LE 16XX 1LE 7XX
1LE 2XX 1LE 5XX 2Extend 1LE 1Extend 7XX 2Extend 2XX 2Extend 3XX 7Extend 3XX 4LE 2XX 1LE 3Extend 2XX
2NU aXX 1LE 1XX 10Extend 1LE 1XX 1LE 6XX 3LE 3XX 1LE 4XX 3LE 2XX 1LE 1XX 1LE 2XX 3LE 2XX 3LE 3XX
3LE cXX 4Extend 5XX 3Extend 3XX 1Extend 4XX 2LE 1XX 6Extend 1XX eNU aXX 10Extend 5LE 8XX 1LE 3XX
1LE 17XX 1LE 10XX 2Extend 1LE 1Extend 7XX 1Extend 3XX 1Extend 4XX 7Extend 2XX 1LE 3XX 1LE 2XX 2LE
2Extend 2XX 2NU aXX 10LE 1Extend 3XX 1LE 8XX 1LE 3XX 1LE 17XX 1LE aXX 1LE 5XX 2Extend 1LE 1Extend
7XX 1Extend 3XX 1Extend 4XX 7Extend 2XX 5LE 3XX 1LE 2Extend 2XX 2NU aXX 1LE 2Extend 1XX cExtend 4LE
9XX 1LE 3XX 1LE 29Extend 2LE 1Extend 7XX 1Extend 3XX 1Extend 4LE 1XX 5LE 3Extend 1XX 7LE 3Extend
2XX 2NU aXX aLE 6XX 1Extend 3XX 1LE 12XX 3LE 18XX 1LE 9XX 1LE 1XX 2LE 7XX 3Extend 1XX 4Extend 6XX
1Extend 1XX 1Extend 8XX 6NU aXX 2Extend 2XX 3dExtend 1XX 2Extend 7XX cExtend 8XX 1NU aXX 57Extend
1XX 2Extend 9XX bExtend 7XX 1NU aXX 26LE 1XX 17Extend 2XX 6NU aXX bExtend 1XX 1Extend 1XX 1Extend
1XX 4Extend 2LE 8XX 1LE 24XX 4Extend 14XX 1Extend 2LE 5Extend bXX 1Extend 24XX 9Extend 1XX 64Extend
14XX 1NU aXX cExtend 4XX 4Extend 3XX 1Extend 3XX 2Extend 7XX 3Extend 4XX dExtend cXX 1Extend 1NU
aExtend 4XX 2LE 26XX 1LE 1XX 5LE 1XX 2LE 2bXX 1LE 14dXX 1LE 4XX 2LE 7XX 1LE 1XX 1LE 4XX 2LE 29XX
1LE 4XX 2LE 21XX 1LE 4XX 2LE 7XX 1LE 1XX 1LE 4XX 2LE fXX 1LE 39XX 1LE 4XX 2LE 43XX 2Extend 3XX 20LE
10XX 10LE 56XX 2LE 6XX 3LE 26cXX 2LE 11WSegSpace 1LE 1aXX 5LE 4bXX 3LE bXX 7LE 12Extend 4XX 9LE
13Extend 3XX bLE 12Extend 2XX cLE dXX 1LE 3XX 1Extend 2XX 40Extend 20XX 9Extend 1XX 2NU aXX
21Extend 3FO 1Extend 1NU aXX 6LE 59XX 7LE 5Extend 2LE 22Extend 1LE 1XX 5LE 46XX aLE 1fXX 1Extend
cXX 4Extend cXX aNU aXX 80NU bXX 25LE 17Extend 5XX 39Extend aXX 1Extend 1dXX 2Extend 1NU aXX 6NU
aXX 16Extend 2eXX 2Extend cXX 14Extend 5LE 2fExtend 11LE 8XX 3NU aXX 11Extend 9XX cExtend 3LE
1eExtend dLE 2NU aLE 2cExtend eXX cLE 24Extend 14XX 8NU aXX 3LE 3NU aLE 24XX 2LE bXX 5LE 2bXX 2LE
3XX 10Extend 3XX 1Extend 15LE 4Extend 1LE 6Extend 1LE 2Extend 3LE 1XX 5LE c0Extend 40LE 116XX 2LE
6XX 2LE 26XX 2LE 6XX 2LE 8XX 1LE 1XX 1LE 1XX 1LE 1XX 1LE 1fXX 2LE 35XX 1LE 7XX 1LE 1XX 3LE 3XX 1LE
7XX 3LE 4XX 2LE 6XX 4LE dXX 5LE 3XX 1LE 7XX 3WSegSpace 7XX 1WSegSpace 3XX 1Extend 1ZWJ 1FO 2XX 8MB
2XX aMB 1XX 2ML 1NL 2FO 5EX 1XX fEX 2XX 3MN 1XX fEX 1XX aWSegSpace 1FO 5XX 1FO aXX 1LE 1XX dLE 1XX
10LE dXX 33Extend 21XX 11LE 1XX 4LE 1XX 2LE aXX 1LE 1XX 3LE 5XX 6LE 1XX 1LE 1XX 1LE 1XX 1LE 4XX 1LE
bXX 2LE 4XX 5LE 5XX 4LE 1XX 11LE 29XX 32dLE 34XX 716LE e5XX 6LE 4Extend 3LE 2XX cLE 26XX 1LE 1XX
5LE 1XX 2LE 38XX 7LE 1XX fExtend 1LE 17XX 9LE 7XX 1LE 7XX 1LE 7XX 1LE 7XX 1LE 7XX 1LE 7XX 1LE 7XX
1LE 7XX 1Extend 20XX 2fLE 1XX 1d0WSegSpace 1XX 4LE 1XX 24Extend 6XX 1KA 5XX 5LE 2XX 5cExtend 2KA
2XX 3KA 5bXX 1KA 4XX 5LE 2bXX 1LE 5eXX 11LE 20XX 30KA 10XX d0KA 2fXX 1KA 58XX 6ca8LE 48dXX 43LE
2eXX 2LE 10dXX 3LE 10NU aLE 2XX 14LE 2fExtend 4XX 1Extend aXX 1LE 1fExtend 2LE 50Extend 2XX 16LE
d5XX 14LE 11Extend 1LE 3Extend 1LE 4Extend 1LE 17Extend 5XX 4Extend 1XX 13LE 34XX cExtend 2LE
32Extend 12XX aNU aXX 6Extend 12LE 6XX 3LE 1XX 1LE 2Extend 1NU aLE 1cExtend 8XX 2LE 17Extend dXX
cLE 1dXX 3Extend 4LE 2fExtend eXX eLE 1NU aXX bExtend 1XX aNU aXX 6LE 29Extend eXX 9LE 3Extend 1LE
8Extend 2XX 2NU aXX 21Extend 3XX 32Extend 1XX 1Extend 3XX 2Extend 2XX 5Extend 2XX 1Extend 1XX 1eLE
bExtend 5XX 2LE 3Extend 2XX aLE 6XX 2LE 6XX 2LE 6XX 9LE 7XX 1LE 7XX 1LE 3aXX 6LE 73Extend 8XX
1Extend 2XX 2NU aXX 6LE 2ba4XX cLE 17XX 4LE 31XX 2304LE 7XX cLE 5XX 5HL 1Extend 1HL aXX 1HL dXX 1HL
5XX 1HL 1XX 1HL 2XX 1HL 2XX 1HL aLE 62XX 21LE 16bXX 12LE 40XX 2LE 36XX 28LE cXX 4Extend 10XX 3ML
1XX cExtend 10XX 3EX 2XX 18EX 3MN 1XX 1MB 1XX 1MN 1ML 1XX 1aLE 5XX 1LE 87XX 2FO 1XX 7MB 1XX 4MN 1XX
1MB 1XX 1NU aML 1MN 1XX 5LE 1aXX 4EX 1XX 1LE 1aXX bKA 38Extend 2LE 1fXX 3LE 6XX 2LE 6XX 2LE 6XX 2LE
3XX 1cFO 3XX 4LE cXX 1LE 1aXX 1LE 13XX 1LE 2XX 1LE fXX 2LE eXX 22LE 7bXX 45LE 35XX 88Extend 1XX
82LE 1dXX 3LE 31XX fExtend 1XX 1fLE 20XX dLE 1eXX 5LE 26Extend 5XX 5LE 1eXX 2LE 24XX 4LE 8XX 1LE
5XX 2aLE 9eXX 2NU aXX 6LE 24XX 4LE 24XX 4LE 28XX 8LE 34XX cLE bXX 1LE fXX 1LE 7XX 1LE 2XX 1LE bXX
1LE fXX 1LE 7XX 1LE 2XX 3LE 34XX cLE 137XX 9LE 16XX aLE 8XX 18LE 6XX 1LE 2aXX 1LE 9XX 45LE 6XX 2LE
1XX 1LE 2cXX 1LE 2XX 3LE 1XX 2LE 17XX aLE 17XX 9LE 1fXX 41LE 13XX 1LE 2XX aLE 16XX aLE 1aXX 6LE
1aXX 26LE 38XX 6LE 2XX 40LE 1Extend 3XX 1Extend 2XX 5Extend 4LE 4XX 1LE 3XX 1LE 1dXX 2Extend 3XX
4Extend 1XX 20LE 1dXX 3LE 1dXX 23LE 8XX 1LE 1cExtend 2XX 19LE 36XX aLE 16XX aLE 13XX dLE 12XX 6eLE
49XX 37LE 33XX dLE 33XX dLE 24Extend 4XX 8NU aXX 6NU aLE 1cXX 3Extend 5XX 1LE 17XX faLE 2aXX
1Extend 2XX 3LE 2XX 10LE 6XX 32Extend 6LE 1dXX aLE 1XX 8LE 16Extend bXX 1fLE 12Extend 4XX 2aLE 15XX
1bLE 17XX 9Extend 3LE 35Extend fXX 1fNU aExtend 1LE 2Extend 2LE 1XX 9Extend 4LE 2dExtend bXX 2NU
1XX 4Extend 1XX aNU 1XX 2LE 19XX 7NU aXX 6Extend 3LE 24Extend eXX 1NU aXX 4LE 1Extend 2LE 1XX 8LE
23Extend 1XX 2LE 1XX 9Extend 3LE 30Extend eLE 4XX 4Extend 4XX 1Extend 2NU aLE 1XX 1LE 1XX 23LE 12XX
1LE 19Extend cXX 6Extend 1LE 2Extend 1XX 3eLE 7XX 1LE 1XX 1LE 4XX 1LE fXX 1LE aXX 7LE 2fExtend cXX
5NU aXX 6Extend 4XX 1LE 8XX 2LE 2XX 2LE 16XX 1LE 7XX 1LE 2XX 1LE 5XX 1Extend 2LE 1Extend 7XX
2Extend 2XX 2Extend 3XX 2LE 1XX 6Extend 1XX 5LE 5Extend 2XX 2Extend 7XX 3Extend 5XX bLE aXX 1LE 1XX
2LE 1XX 1LE 26XX 1LE 1Extend 9XX 1Extend 1XX 2Extend 1XX 1Extend 4XX 1Extend 5LE 1Extend 1LE 1XX
dExtend 2XX 1dLE 35Extend 12LE 4XX 5NU aXX 4Extend 1LE 3XX 1eLE 30Extend 14LE 2XX 1LE 1XX 8NU aXX
a6LE 2fExtend 7XX 2Extend 9XX 17LE 4Extend 2XX 22LE 30Extend 11XX 3LE 1XX bNU aXX 26LE 2bExtend dLE
1XX 7NU aXX 6NU 14XX 39Extend fXX 4NU aXX c6LE 2cExtend fXX 65LE 40NU aXX 15LE 8XX 2LE 1XX 2LE 8XX
1LE 2XX 1LE 18Extend 6XX 1Extend 2XX 2Extend 4LE 1Extend 1LE 1Extend 2XX cNU aXX 46LE 8XX 2LE
27Extend 7XX 2Extend 7LE 1XX 1LE 1Extend 1XX 1bLE 1Extend aLE 28Extend 7LE 1Extend 4XX 8Extend 1XX
8LE 1Extend bLE 2eExtend 10XX 3LE 1XX 12LE 49XX 67Extend 8XX 58LE 21XX fNU aXX 6LE 9XX 1LE 25Extend
8XX 1Extend 8LE 1XX fNU aXX 18LE 1eXX 2Extend 16XX 1Extend eXX 49LE 7XX 1LE 2XX 1LE 26Extend 6XX
3Extend 1XX 1Extend 2XX 1Extend 7LE 1Extend 1XX 8NU aXX 6LE 6XX 1LE 2XX 1LE 20Extend 5XX 1Extend
2XX 1Extend 5LE 1XX 7NU aXX 6LE 2cXX 4NU aXX f6LE 13Extend 4XX 9Extend 2LE 1Extend 1LE dXX 1LE
22Extend 7XX 3Extend 5XX dNU aExtend 1XX 55LE 1XX 4fLE 39aXX 66LE 6fXX 11LE c4XX a4cLE 61XX fLE
430FO 10Extend 1LE 6Extend fXX aLE f9bXX 5LE 247XX 1ab9LE 1eExtend 12NU aXX 6c6LE 239XX 7LE 1fXX
1NU aXX 6LE 4fXX 1NU aXX 6LE 1eXX 2Extend 5XX bLE 30Extend 7XX 9LE 4XX cNU aXX 9LE 15XX 5LE 13XX
1b0LE 2dXX 3NU aXX c6LE 40XX 20LE 19XX 2LE 19XX 2cLE 4bXX 4Extend 1LE 1Extend 37XX 7Extend 4LE dXX
40LE 2XX 1LE 1Extend 1XX bExtend 2XX 3ffeKA 4XX 1KA 7XX 1KA 2XX 1KA 1XX 11fKA 3XX 32KA 1XX eKA 4XX
a98LE 6bXX 5LE dXX 3LE 9XX 7LE aXX 3Extend 2XX 1FO 4XX 104cNU aXX 206Extend 2eXX 2Extend 17XX
21eExtend 5XX 3Extend 6FO 8Extend 8XX 2Extend 7XX 1eExtend 4XX 94Extend 3XX 1bbLE 55XX 1LE 47XX 1LE
2XX 2LE 1XX 2LE 2XX 2LE 4XX 1LE cXX 1LE 1XX 1LE 7XX 1LE 41XX 1LE 4XX 2LE 8XX 1LE 7XX 1LE 1cXX 1LE
4XX 1LE 5XX 1LE 1XX 3LE 7XX 1LE 154XX 2LE 19XX 1LE 19XX 1LE 1fXX 1LE 19XX 1LE 1fXX 1LE 19XX 1LE
1fXX 1LE 19XX 1LE 1fXX 1LE 19XX 1LE 8XX 2NU 32XX 200Extend 37XX 4Extend 32XX 8Extend 1XX eExtend
1XX 16Extend 5XX 1Extend fXX 450LE 1fXX 6LE 6XX d5Extend 7XX 1Extend 11XX 2Extend 7XX 1Extend 2XX
1Extend 5XX 5LE 3eXX 21Extend 1XX 70LE 2dXX 3Extend 7LE 7XX 2NU aXX 4LE 1XX 141LE 1eExtend 1XX 11LE
2cExtend 4NU aXX 1d6LE 1cExtend 4NU aXX d6LE 1eExtend 2LE 1NU aXX c5LE 1fXX 1LE 3Extend 1LE 2Extend
1LE 7Extend 2LE 5Extend 1XX 8LE 2XX e0LE 7XX 1LE 4XX 1LE 2XX 1LE fXX 1LE c5XX bExtend 7XX 29LE
44Extend 7LE 1XX 4NU aXX 4a6LE 4XX 1LE 1bXX 1LE 2XX 1LE 1XX 2LE 1XX 1LE aXX 1LE 4XX 1LE 1XX 1LE 1XX
6LE 1XX 4LE 1XX 1LE 1XX 1LE 1XX 1LE 3XX 1LE 2XX 1LE 1XX 2LE 1XX 1LE 1XX 1LE 1XX 1LE 1XX 1LE 1XX 1LE
2XX 1LE 1XX 2LE 4XX 1LE 7XX 1LE 4XX 1LE 4XX 1LE 1XX 1LE aXX 1LE 11XX 5LE 3XX 1LE 5XX 1LE 11XX 274LE
1aXX 6LE 1aXX 6LE 1aXX 5cRI 1aXX 1fbExtend 5XX 7f0NU aXX c0407FO 1XX 1eExtend 60XX 80Extend f0XX"

/-- The values of all code points for sentences, in the first text form of tables. -/
def sentenceText : String := "
0XX 9SP 1LF 1SP 2CR 1XX 12SP 1ST 1CL 1XX 4CL 3XX 2SC 2AT 1XX 1NU aSC 2XX 3ST 1XX 1UP 1aCL 1XX 1CL
1XX 3LO 1aCL 1XX 1CL 1XX 7SE 1XX 1aSP 1XX 9LO 1CL 1XX 1FO 1XX 7LO 1XX 4LO 1CL 1XX 4UP 17XX 1UP 7LO
18XX 1LO 8UP 1LO 1UP 1LO 1UP 1LO 1UP 1LO 1UP 1LO 1UP 1LO 1UP 1LO 1UP 1LO 1UP 1LO 1UP 1LO 1UP 1LO
1UP 1LO 1UP 1LO 1UP 1LO 1UP 1LO 1UP 1LO 1UP 1LO 1UP 1LO 1UP 1LO 1UP 1LO 1UP 1LO 1UP 1LO 1UP 1LO 1UP
1LO 1UP 1LO 1UP 1LO 1UP 1LO 1UP 1LO 2UP 1LO 1UP 1LO 1UP 1LO 1UP 1LO 1UP 1LO 1UP 1LO 1UP 1LO 1UP 1LO
2UP 1LO 1UP 1LO 1UP 1LO 1UP 1LO 1UP 1LO 1UP 1LO 1UP 1LO 1UP 1LO 1UP 1LO 1UP 1LO 1UP 1LO 1UP 1LO 1UP
1LO 1UP 1LO 1UP 1LO 1UP 1LO 1UP 1LO 1UP 1LO 1UP 1LO 1UP 1LO 1UP 1LO 1UP 1LO 1UP 1LO 1UP 2LO 1UP 1LO
1UP 1LO 3UP 2LO 1UP 1LO 1UP 2LO 1UP 3LO 2UP 4LO 1UP 2LO 1UP 3LO 3UP 2LO 1UP 2LO 1UP 1LO 1UP 1LO 1UP
2LO 1UP 1LO 2UP 1LO 1UP 2LO 1UP 3LO 1UP 1LO 1UP 2LO 2LE 1UP 1LO 3LE 4UP 2LO 1UP 2LO 1UP 2LO 1UP 1LO
1UP 1LO 1UP 1LO 1UP 1LO 1UP 1LO 1UP 1LO 1UP 1LO 1UP 1LO 2UP 1LO 1UP 1LO 1UP 1LO 1UP 1LO 1UP 1LO 1UP
1LO 1UP 1LO 1UP 1LO 1UP 1LO 2UP 2LO 1UP 1LO 1UP 3LO 1UP 1LO 1UP 1LO 1UP 1LO 1UP 1LO 1UP 1LO 1UP 1LO
1UP 1LO 1UP 1LO 1UP 1LO 1UP 1LO 1UP 1LO 1UP 1LO 1UP 1LO 1UP 1LO 1UP 1LO 1UP 1LO 1UP 1LO 1UP 1LO 1UP
1LO 1UP 1LO 1UP 1LO 1UP 1LO 1UP 1LO 1UP 1LO 1UP 1LO 1UP 1LO 1UP 1LO 1UP 1LO 1UP 1LO 7UP 2LO 1UP 2LO
2UP 1LO 1UP 4LO 1UP 1LO 1UP 1LO 1UP 1LO 1UP 1LO 45LE 2LO 23LE 7LO 2XX 4LE cXX eLO 5XX 7LE 1XX 1LE
1XX 11EX 70UP 1LO 1UP 1LO 1LE 1XX 1UP 1LO 1XX 2LO 4SC 1UP 1XX 6UP 1XX 1UP 3XX 1UP 1XX 1UP 2LO 1UP
11XX 1UP 9LO 23UP 1LO 2UP 3LO 3UP 1LO 1UP 1LO 1UP 1LO 1UP 1LO 1UP 1LO 1UP 1LO 1UP 1LO 1UP 1LO 1UP
1LO 1UP 1LO 1UP 1LO 1UP 1LO 5UP 1LO 1XX 1UP 1LO 1UP 2LO 2UP 33LO 30UP 1LO 1UP 1LO 1UP 1LO 1UP 1LO
1UP 1LO 1UP 1LO 1UP 1LO 1UP 1LO 1UP 1LO 1UP 1LO 1UP 1LO 1UP 1LO 1UP 1LO 1UP 1LO 1UP 1LO 1UP 1LO 1UP
1LO 1XX 1EX 7UP 1LO 1UP 1LO 1UP 1LO 1UP 1LO 1UP 1LO 1UP 1LO 1UP 1LO 1UP 1LO 1UP 1LO 1UP 1LO 1UP 1LO
1UP 1LO 1UP 1LO 1UP 1LO 1UP 1LO 1UP 1LO 1UP 1LO 1UP 1LO 1UP 1LO 1UP 1LO 1UP 1LO 1UP 1LO 1UP 1LO 1UP
1LO 1UP 1LO 1UP 1LO 1UP 1LO 1UP 2LO 1UP 1LO 1UP 1LO 1UP 1LO 1UP 1LO 1UP 1LO 1UP 1LO 2UP 1LO 1UP 1LO
1UP 1LO 1UP 1LO 1UP 1LO 1UP 1LO 1UP 1LO 1UP 1LO 1UP 1LO 1UP 1LO 1UP 1LO 1UP 1LO 1UP 1LO 1UP 1LO 1UP
1LO 1UP 1LO 1UP 1LO 1UP 1LO 1UP 1LO 1UP 1LO 1UP 1LO 1UP 1LO 1UP 1LO 1UP 1LO 1UP 1LO 1UP 1LO 1UP 1LO
1UP 1LO 1UP 1LO 1UP 1LO 1UP 1LO 1UP 1LO 1UP 1LO 1UP 1LO 1UP 1LO 1UP 1LO 1UP 1LO 1UP 1LO 1UP 1LO 1UP
1LO 1UP 1LO 1UP 1LO 1UP 1LO 1UP 1LO 1UP 1LO 1UP 1LO 1UP 1LO 1UP 1LO 1XX 1UP 26XX 2LE 1XX 3SC 1XX
2LO 29ST 1XX 7EX 2dXX 1EX 1XX 1EX 2XX 1EX 2XX 1EX 1XX 8LE 1bXX 4LE 5XX cNU 6XX 6SC 2XX 2EX bXX 1FO
1ST 3LE 2bEX 15NU aXX 1NU 2XX 1LE 2EX 1LE 63ST 1LE 1EX 7NU 1XX 1EX 6LE 2EX 2XX 1EX 4LE 2NU aLE 3XX
2LE 1ST 3XX cFO 1LE 1EX 1LE 1eEX 1bXX 2LE 59EX bLE 1XX eNU aLE 21EX 9LE 2XX 2SC 1ST 1LE 1XX 2EX 1XX
2LE 16EX 4LE 1EX 9LE 1EX 3LE 1EX 5XX 9ST 1XX 1ST 1XX 3ST 2XX 1LE 19EX 3XX 4LE bXX 5LE 18XX 1LE 7NU
2XX 5EX 9LE 2aEX 18NU 1EX 21LE 36EX 3LE 1EX 12LE 1EX 7LE aEX 2ST 2NU aXX 1LE 10EX 3XX 1LE 8XX 2LE
2XX 2LE 16XX 1LE 7XX 1LE 1XX 3LE 4XX 2EX 1LE 1EX 7XX 2EX 2XX 2EX 3LE 1XX 8EX 1XX 4LE 2XX 1LE 3EX
2XX 2NU aLE 2XX aLE 1XX 1EX 1XX 2EX 3XX 1LE 6XX 4LE 2XX 2LE 16XX 1LE 7XX 1LE 2XX 1LE 2XX 1LE 2XX
2EX 1XX 1EX 5XX 4EX 2XX 2EX 3XX 3EX 1XX 7LE 4XX 1LE 1XX 7NU aEX 2LE 3EX 1XX bEX 3XX 1LE 9XX 1LE 3XX
1LE 16XX 1LE 7XX 1LE 2XX 1LE 5XX 2EX 1LE 1EX 8XX 1EX 3XX 1EX 3XX 2LE 1XX fLE 2EX 2XX 2NU aXX 9LE
1EX 6XX 1EX 3XX 1LE 8XX 2LE 2XX 2LE 16XX 1LE 7XX 1LE 2XX 1LE 5XX 2EX 1LE 1EX 7XX 2EX 2XX 2EX 3XX
7EX 3XX 4LE 2XX 1LE 3EX 2XX 2NU aXX 1LE 1XX 10EX 1LE 1XX 1LE 6XX 3LE 3XX 1LE 4XX 3LE 2XX 1LE 1XX
1LE 2XX 3LE 2XX 3LE 3XX 3LE cXX 4EX 5XX 3EX 3XX 1EX 4XX 2LE 1XX 6EX 1XX eNU aXX 10EX 5LE 8XX 1LE
3XX 1LE 17XX 1LE 10XX 2EX 1LE 1EX 7XX 1EX 3XX 1EX 4XX 7EX 2XX 1LE 3XX 1LE 2XX 2LE 2EX 2XX 2NU aXX
10LE 1EX 3XX 1LE 8XX 1LE 3XX 1LE 17XX 1LE aXX 1LE 5XX 2EX 1LE 1EX 7XX 1EX 3XX 1EX 4XX 7EX 2XX 5LE
3XX 1LE 2EX 2XX 2NU aXX 1LE 2EX 1XX cEX 4LE 9XX 1LE 3XX 1LE 29EX 2LE 1EX 7XX 1EX 3XX 1EX 4LE 1XX
5LE 3EX 1XX 7LE 3EX 2XX 2NU aXX aLE 6XX 1EX 3XX 1LE 12XX 3LE 18XX 1LE 9XX 1LE 1XX 2LE 7XX 3EX 1XX
4EX 6XX 1EX 1XX 1EX 8XX 6NU aXX 2EX 2XX dLE 30EX 1LE 2EX 7XX 5LE 7EX 8XX 1NU aXX 27LE 2XX 1LE 1XX
1LE 5XX 1LE 18XX 1LE 1XX 1LE aEX 1LE 2EX 9LE 1XX 2LE 5XX 1LE 1XX 1EX 7XX 1NU aXX 2LE 4XX 20LE 1XX
17EX 2XX 6NU aXX bEX 1XX 1EX 1XX 1EX 1CL 4EX 2LE 8XX 1LE 24XX 4EX 14XX 1EX 2LE 5EX bXX 1EX 24XX 9EX
1XX 39LE 2bEX 14LE 1NU aST 2XX 4LE 6EX 4LE 4EX 3LE 1EX 3LE 2EX 7LE 3EX 4LE dEX cLE 1EX 1NU aEX 4XX
2UP 26XX 1UP 1XX 5UP 1XX 2LE 2bXX 1LO 1LE 14cXX 1LE 4XX 2LE 7XX 1LE 1XX 1LE 4XX 2LE 29XX 1LE 4XX
2LE 21XX 1LE 4XX 2LE 7XX 1LE 1XX 1LE 4XX 2LE fXX 1LE 39XX 1LE 4XX 2LE 43XX 2EX 3XX 2ST 1XX 4ST 2XX
17LE 10XX 10UP 56XX 2LO 6XX 3LE 26cXX 1ST 1LE 11SP 1LE 1aCL 2XX 3LE 4bXX 3LE bXX 7LE 12EX 4XX 9LE
13EX 3ST 2XX 9LE 12EX 2XX cLE dXX 1LE 3XX 1EX 2XX cLE 34EX 20ST 2XX 1LE 1XX 4LE 1EX 1XX 2NU aXX
18SC 1ST 1XX 4SC 1ST 1XX 1EX 3FO 1EX 1NU aXX 6LE 59XX 7LE 5EX 2LE 22EX 1LE 1XX 5LE 46XX aLE 1fXX
1EX cXX 4EX cXX 8ST 2NU aLE 1eXX 2LE 5XX bLE 2cXX 4LE 1aXX 6NU bXX 25LE 17EX 5XX 4LE 35EX aXX 1EX
1dXX 2EX 1NU aXX 6NU aXX dLE 1ST 4XX 4EX 2eXX 2EX cXX 14EX 5LE 2fEX 11LE 8XX 1ST 2NU aST 2XX 2ST
2XX bEX 9XX 9ST 3EX 3LE 1eEX dLE 2NU aLE 2cEX eXX cLE 24EX 14XX 3ST 2XX 3NU aXX 3LE 3NU aLE 24ST
2LO 9UP 1LO 1XX 5LE 2bXX 2LE 3XX 10EX 3XX 1EX 15LE 4EX 1LE 6EX 1LE 2EX 3LE 1XX 5LO c0EX 40UP 1LO
1UP 1LO 1UP 1LO 1UP 1LO 1UP 1LO 1UP 1LO 1UP 1LO 1UP 1LO 1UP 1LO 1UP 1LO 1UP 1LO 1UP 1LO 1UP 1LO 1UP
1LO 1UP 1LO 1UP 1LO 1UP 1LO 1UP 1LO 1UP 1LO 1UP 1LO 1UP 1LO 1UP 1LO 1UP 1LO 1UP 1LO 1UP 1LO 1UP 1LO
1UP 1LO 1UP 1LO 1UP 1LO 1UP 1LO 1UP 1LO 1UP 1LO 1UP 1LO 1UP 1LO 1UP 1LO 1UP 1LO 1UP 1LO 1UP 1LO 1UP
1LO 1UP 1LO 1UP 1LO 1UP 1LO 1UP 1LO 1UP 1LO 1UP 1LO 1UP 1LO 1UP 1LO 1UP 1LO 1UP 1LO 1UP 1LO 1UP 1LO
1UP 1LO 1UP 1LO 1UP 1LO 1UP 1LO 1UP 1LO 1UP 1LO 1UP 1LO 1UP 1LO 1UP 1LO 1UP 1LO 1UP 1LO 1UP 1LO 1UP
1LO 1UP 1LO 1UP 1LO 1UP 1LO 1UP 1LO 1UP 1LO 1UP 1LO 1UP 1LO 1UP 1LO 1UP 1LO 1UP 1LO 1UP 1LO 9UP 1LO
1UP 1LO 1UP 1LO 1UP 1LO 1UP 1LO 1UP 1LO 1UP 1LO 1UP 1LO 1UP 1LO 1UP 1LO 1UP 1LO 1UP 1LO 1UP 1LO 1UP
1LO 1UP 1LO 1UP 1LO 1UP 1LO 1UP 1LO 1UP 1LO 1UP 1LO 1UP 1LO 1UP 1LO 1UP 1LO 1UP 1LO 1UP 1LO 1UP 1LO
1UP 1LO 1UP 1LO 1UP 1LO 1UP 1LO 1UP 1LO 1UP 1LO 1UP 1LO 1UP 1LO 1UP 1LO 1UP 1LO 1UP 1LO 1UP 1LO 1UP
1LO 1UP 1LO 1UP 1LO 1UP 1LO 1UP 1LO 1UP 1LO 1UP 1LO 1UP 1LO 1UP 1LO 1UP 1LO 1UP 1LO 9UP 8LO 6XX 2UP
6XX 2LO 8UP 8LO 8UP 8LO 6XX 2UP 6XX 2LO 8XX 1UP 1XX 1UP 1XX 1UP 1XX 1UP 1LO 8UP 8LO eXX 2LO 8UP 8LO
8UP 8LO 8UP 8LO 5XX 1LO 2UP 5XX 1LO 1XX 3LO 3XX 1LO 2UP 5XX 3LO 4XX 2LO 2UP 4XX 4LO 8UP 5XX 5LO 3XX
1LO 2UP 5XX 3SP bFO 1EX 2FO 2XX 3SC 2XX 3CL 8XX 4AT 1XX 3SE 2FO 5SP 1XX 9CL 2XX 1ST 2XX 7CL 2ST 3XX
15SP 1FO 5XX 1FO aXX 1LO 1XX bCL 2LO 1XX dCL 2XX 1LO dXX 33EX 21XX 11UP 1XX 4UP 1XX 2LO 1UP 3LO 2UP
3LO 1XX 1UP 1XX 3UP 5XX 6UP 1XX 1UP 1XX 1UP 1XX 1UP 4XX 1LO 1UP 4LO 1LE 4LO 1XX 2LO 2UP 2XX 5UP 1LO
4XX 4LO 1XX 11UP 10LO 10LE 3UP 1LO 1LE 4XX 17fCL 4XX 1dCL 2XX 18bUP 1aLO 1aXX 271CL 6XX 7CL eXX
4fCL 2XX 1fCL aXX 193CL 16XX 3fCL 4XX 20CL 2XX 202UP 30LO 30UP 1LO 1UP 3LO 2UP 1LO 1UP 1LO 1UP 1LO
1UP 4LO 1UP 1LO 2UP 1LO 8UP 3LO 1UP 1LO 1UP 1LO 1UP 1LO 1UP 1LO 1UP 1LO 1UP 1LO 1UP 1LO 1UP 1LO 1UP
1LO 1UP 1LO 1UP 1LO 1UP 1LO 1UP 1LO 1UP 1LO 1UP 1LO 1UP 1LO 1UP 1LO 1UP 1LO 1UP 1LO 1UP 1LO 1UP 1LO
1UP 1LO 1UP 1LO 1UP 1LO 1UP 1LO 1UP 1LO 1UP 1LO 1UP 1LO 1UP 1LO 1UP 1LO 1UP 1LO 1UP 1LO 1UP 1LO 1UP
1LO 1UP 1LO 1UP 1LO 1UP 1LO 1UP 1LO 1UP 1LO 1UP 1LO 1UP 1LO 1UP 1LO 1UP 1LO 1UP 1LO 1UP 1LO 1UP 1LO
1UP 1LO 1UP 1LO 1UP 1LO 2XX 6UP 1LO 1UP 1LO 1EX 3UP 1LO 1XX 5ST 3XX 4LO 26XX 1LO 1XX 5LO 1XX 2LE
38XX 7LE 1XX fEX 1LE 17XX 9LE 7XX 1LE 7XX 1LE 7XX 1LE 7XX 1LE 7XX 1LE 7XX 1LE 7XX 1LE 7XX 1EX 20CL
eXX eCL 2XX 2CL aXX 4ST 1LE 1XX cST 1XX 5CL 1XX 10ST 2CL 8XX 1a3SP 1SC 1ST 1XX 2LE 3CL aXX 2CL 8XX
1CL 3XX 1LE 9EX 6XX 1LE 5XX 2LE 5XX 4LE 56XX 2EX 2XX 2LE 3XX 1LE 5aXX 1LE 4XX 5LE 2bXX 1LE 5eXX
11LE 20XX 30LE 10XX 200LE 19c0XX 40LE 568dXX 43LE 2eXX 1ST 1LE 10dXX 1ST 2LE 10NU aLE 2XX 14UP 1LO
1UP 1LO 1UP 1LO 1UP 1LO 1UP 1LO 1UP 1LO 1UP 1LO 1UP 1LO 1UP 1LO 1UP 1LO 1UP 1LO 1UP 1LO 1UP 1LO 1UP
1LO 1UP 1LO 1UP 1LO 1UP 1LO 1UP 1LO 1UP 1LO 1UP 1LO 1UP 1LO 1UP 1LO 1UP 1LO 1LE 1EX 4XX 1EX aXX 1LE
1UP 1LO 1UP 1LO 1UP 1LO 1UP 1LO 1UP 1LO 1UP 1LO 1UP 1LO 1UP 1LO 1UP 1LO 1UP 1LO 1UP 1LO 1UP 1LO 1UP
1LO 1UP 1LO 3EX 2LE 50EX 2XX 1ST 1XX 3ST 1XX 1fLE 9XX 2UP 1LO 1UP 1LO 1UP 1LO 1UP 1LO 1UP 1LO 1UP
1LO 1UP 1LO 3UP 1LO 1UP 1LO 1UP 1LO 1UP 1LO 1UP 1LO 1UP 1LO 1UP 1LO 1UP 1LO 1UP 1LO 1UP 1LO 1UP 1LO
1UP 1LO 1UP 1LO 1UP 1LO 1UP 1LO 1UP 1LO 1UP 1LO 1UP 1LO 1UP 1LO 1UP 1LO 1UP 1LO 1UP 1LO 1UP 1LO 1UP
1LO 1UP 1LO 1UP 1LO 1UP 1LO 1UP 1LO 1UP 1LO 1UP 1LO 1UP 1LO aUP 1LO 1UP 1LO 1UP 2LO 1UP 1LO 1UP 1LO
1UP 1LO 1UP 1LO 1LE 1XX 2UP 1LO 1UP 1LO 1LE 1UP 1LO 1UP 1LO 3UP 1LO 1UP 1LO 1UP 1LO 1UP 1LO 1UP 1LO
1UP 1LO 1UP 1LO 1UP 1LO 1UP 1LO 1UP 1LO 1UP 5LO 1UP 5LO 1UP 1LO 1UP 1LO 1UP 1LO 1UP 1LO 1UP 1LO 1UP
1LO 1UP 1LO 1UP 4LO 1UP 1LO 1UP 2LO 1UP 1LO 1UP 1LO 1UP 1LO 1UP 1LO 1UP 1LO 1UP 1LO 1UP 1LO 1UP 1XX
14LO 4UP 1LO 1LE 1LO 3LE 7EX 1LE 3EX 1LE 4EX 1LE 17EX 5XX 4EX 1XX 13LE 34XX 2ST 2XX 8EX 2LE 32EX
12XX 8ST 2NU aXX 6EX 12LE 6XX 3LE 1XX 1LE 2EX 1NU aLE 1cEX 8XX 1ST 1LE 17EX dXX cLE 1dXX 3EX 4LE
2fEX eXX 7ST 2XX 5LE 1NU aXX 6LE 5EX 1LE aNU aLE 5XX 1LE 29EX eXX 9LE 3EX 1LE 8EX 2XX 2NU aXX 3ST
3LE 17XX 3LE 1EX 3LE 32EX 1LE 1EX 3LE 2EX 2LE 5EX 2LE 1EX 1LE 1XX 18LE 3XX 2LE bEX 5ST 2LE 3EX 2XX
aLE 6XX 2LE 6XX 2LE 6XX 9LE 7XX 1LE 7XX 1LO 2bXX 1LO eXX 6LO 50LE 23EX 8ST 1EX 2XX 2NU aXX 6LE
2ba4XX cLE 17XX 4LE 31XX 2104LE 16eXX 2LE 6aXX 26LO 7XX cLO 5XX 5LE 1EX 1LE aXX 1LE dXX 1LE 5XX 1LE
1XX 1LE 2XX 1LE 2XX 1LE 6cXX 21LE 16bCL 2XX 10LE 40XX 2LE 36XX 28LE cXX 4EX 10SC 2ST 1SC 2ST 2CL
2XX 7EX 10XX 1SC 2XX 2CL 10XX 2CL 2XX 7SC 2AT 1XX 1SC 2ST 2SC 1CL 6XX 4SC 1XX cLE 5XX 1LE 87XX 2FO
1XX 1ST 1XX 6CL 2XX 2SC 2AT 1XX 1NU aSC 2XX 3ST 1XX 1UP 1aCL 1XX 1CL 1XX 3LO 1aCL 1XX 1CL 1XX 1CL
2ST 1CL 2SC 1XX 1LE 38EX 2LE 1fXX 3LE 6XX 2LE 6XX 2LE 6XX 2LE 3XX 1cFO 3XX 4LE cXX 1LE 1aXX 1LE
13XX 1LE 2XX 1LE fXX 2LE eXX 22LE 7bXX 45LE 35XX 88EX 1XX 82LE 1dXX 3LE 31XX fEX 1XX 1fLE 20XX dLE
1eXX 5LE 26EX 5XX 5LE 1eXX 2LE 24XX 4LE 8XX 1LE 5XX 2aUP 28LO 28LE 4eXX 2NU aXX 6UP 24XX 4LO 24XX
4LE 28XX 8LE 34XX cUP bXX 1UP fXX 1UP 7XX 1UP 2XX 1LO bXX 1LO fXX 1LO 7XX 1LO 2XX 3LE 34XX cLE
137XX 9LE 16XX aLE 8XX 18LO 1LE 2LO 3XX 1LO 2aXX 1LO 9XX 45LE 6XX 2LE 1XX 1LE 2cXX 1LE 2XX 3LE 1XX
2LE 17XX aLE 17XX 9LE 1fXX 41LE 13XX 1LE 2XX aLE 16XX aLE 1aXX 6LE 1aXX 26LE 38XX 6LE 2XX 40LE 1EX
3XX 1EX 2XX 5EX 4LE 4XX 1LE 3XX 1LE 1dXX 2EX 3XX 4EX 1XX 16ST 2XX 8LE 1dXX 3LE 1dXX 23LE 8XX 1LE
1cEX 2XX 19LE 36XX aLE 16XX aLE 13XX dLE 12XX 6eLE 49XX 37UP 33XX dLO 33XX dLE 24EX 4XX 8NU aXX 6NU
aLE 6UP 16XX 3EX 5XX 1LE 1LO 16XX faLE 2aXX 1EX 2XX 3LE 2XX 10LE 6XX 32EX 6LE 1dXX aLE 1XX 8LE 16EX
bXX 4ST 5XX 16LE 12EX 4ST 4XX 26LE 15XX 1bLE 17XX 9EX 3LE 35EX fST 2XX 1dNU aEX 1LE 2EX 2LE 1XX 9EX
4LE 2dEX bXX 2NU 1ST 4EX 1XX aNU 1XX 2LE 19XX 7NU aXX 6EX 3LE 24EX eXX 1NU aXX 1ST 3LE 1EX 2LE 1XX
8LE 23EX 1XX 2LE 1XX 9EX 3LE 30EX eLE 4ST 2XX 2EX 4ST 1EX 2NU aLE 1XX 1LE 1XX 1ST 2XX 20LE 12XX 1LE
19EX cST 2XX 1ST 2XX 1EX 1LE 2EX 1XX 3eLE 7XX 1LE 1XX 1LE 4XX 1LE fXX 1LE aST 1XX 6LE 2fEX cXX 5NU
aXX 6EX 4XX 1LE 8XX 2LE 2XX 2LE 16XX 1LE 7XX 1LE 2XX 1LE 5XX 1EX 2LE 1EX 7XX 2EX 2XX 2EX 3XX 2LE
1XX 6EX 1XX 5LE 5EX 2XX 2EX 7XX 3EX 5XX bLE aXX 1LE 1XX 2LE 1XX 1LE 26XX 1LE 1EX 9XX 1EX 1XX 2EX
1XX 1EX 4XX 1EX 5LE 1EX 1LE 1ST 2XX bEX 2XX 1dLE 35EX 12LE 4ST 2XX 3NU aXX 4EX 1LE 3XX 1eLE 30EX
14LE 2XX 1LE 1XX 8NU aXX a6LE 2fEX 7XX 2EX 9XX 1ST 2XX 5ST fLE 4EX 2XX 22LE 30EX 11ST 2XX 1LE 1XX
bNU aXX 26LE 2bEX dLE 1XX 7NU aXX 6NU 14XX 1cLE 1bXX 2EX fXX 4NU aXX 2ST 3XX 1LE 7XX b9LE 2cEX fXX
65UP 20LO 20NU aXX 15LE 8XX 2LE 1XX 2LE 8XX 1LE 2XX 1LE 18EX 6XX 1EX 2XX 2EX 4LE 1EX 1LE 1EX 2ST
1XX 1ST 1XX 9NU aXX 46LE 8XX 2LE 27EX 7XX 2EX 7LE 1XX 1LE 1EX 1XX 1bLE 1EX aLE 28EX 7LE 1EX 4XX 3ST
2XX 3EX 1XX 8LE 1EX bLE 2eEX 10XX 1ST 2LE 1XX 12LE 49XX 67EX 8XX 58LE 21XX fNU aXX 6LE 9XX 1LE 25EX
8XX 1EX 8LE 1ST 2XX dNU aXX 18LE 1eXX 2EX 16XX 1EX eXX 49LE 7XX 1LE 2XX 1LE 26EX 6XX 3EX 1XX 1EX
2XX 1EX 7LE 1EX 1XX 8NU aXX 6LE 6XX 1LE 2XX 1LE 20EX 5XX 1EX 2XX 1EX 5LE 1XX 7NU aXX 6LE 2cXX 4NU
aXX f6LE 13EX 4ST 2XX 7EX 2LE 1EX 1LE dXX 1LE 22EX 7XX 3EX 5ST 2XX bNU aEX 1XX 55LE 1XX 4fLE 39aXX
66LE 6fXX 11LE c4XX a4cLE 61XX fLE 430FO 10EX 1LE 6EX fXX aLE f9bXX 5LE 247XX 1ab9LE 1eEX 12NU aXX
6c6LE 239XX 7LE 1fXX 1NU aXX 4ST 2LE 4fXX 1NU aXX 6LE 1eXX 2EX 5ST 1XX aLE 30EX 7ST 2XX 7LE 4ST 1XX
bNU aXX 9LE 15XX 5LE 13XX 1b0LE 2dXX 1ST 2NU aXX c6UP 20LO 20XX 18ST 1XX 7UP 19XX 2LO 19XX 2cLE
4bXX 4EX 1LE 1EX 37XX 7EX 4LE dXX 40LE 2XX 1LE 1EX 1XX bEX 2LE 5XX 9LE 1cd6XX 29LE 20XX 61LE 73XX
21fdLE 4XX 1LE 7XX 1LE 2XX 1LE 123XX fLE 1XX 1dLE 3XX 2LE 1XX eLE 4XX 8LE 18cXX 904LE 6bXX 5LE dXX
3LE 9XX 7LE aXX 3EX 2ST 1FO 4XX 104cNU aXX 206EX 2eXX 2EX 17XX 21eEX 5XX 3EX 6FO 8EX 8XX 2EX 7XX
1eEX 4XX 94EX 3XX 1bbUP 1aLO 1aUP 1aLO 7XX 1LO 12UP 1aLO 1aUP 1XX 1UP 2XX 2UP 1XX 2UP 2XX 2UP 4XX
1UP 8LO 4XX 1LO 1XX 1LO 7XX 1LO bUP 1aLO 1aUP 2XX 1UP 4XX 2UP 8XX 1UP 7XX 1LO 1aUP 2XX 1UP 4XX 1UP
5XX 1UP 1XX 3UP 7XX 1LO 1aUP 1aLO 1aUP 1aLO 1aUP 1aLO 1aUP 1aLO 1aUP 1aLO 1aUP 1aLO 1cXX 2UP 19XX
1LO 19XX 1LO 6UP 19XX 1LO 19XX 1LO 6UP 19XX 1LO 19XX 1LO 6UP 19XX 1LO 19XX 1LO 6UP 19XX 1LO 19XX
1LO 6UP 1LO 1XX 2NU 32XX 200EX 37XX 4EX 32XX 8EX 1XX eEX 1XX 3ST 1XX 12EX 5XX 1EX fXX 450LO aLE 1LO
14XX 6LO 6XX d5EX 7XX 1EX 11XX 2EX 7XX 1EX 2XX 1EX 5XX 5LO 3eXX 21EX 1XX 70LE 2dXX 3EX 7LE 7XX 2NU
aXX 4LE 1XX 141LE 1eEX 1XX 11LE 2cEX 4NU aXX 1d6LE 1cEX 4NU aXX d6LE 1eEX 2LE 1NU aXX c5LE 1fXX 1LE
3EX 1LE 2EX 1LE 7EX 2LE 5EX 1XX 8LE 2XX e0LE 7XX 1LE 4XX 1LE 2XX 1LE fXX 1LE c5XX bEX 7XX 29UP 22LO
22EX 7LE 1XX 4NU aXX 4a6LE 4XX 1LE 1bXX 1LE 2XX 1LE 1XX 2LE 1XX 1LE aXX 1LE 4XX 1LE 1XX 1LE 1XX 6LE
1XX 4LE 1XX 1LE 1XX 1LE 1XX 1LE 3XX 1LE 2XX 1LE 1XX 2LE 1XX 1LE 1XX 1LE 1XX 1LE 1XX 1LE 1XX 1LE 2XX
1LE 1XX 2LE 4XX 1LE 7XX 1LE 4XX 1LE 4XX 1LE 1XX 1LE aXX 1LE 11XX 5LE 3XX 1LE 5XX 1LE 11XX 274UP
1aXX 6UP 1aXX 6UP 1aXX 4ecCL 3XX 577NU aXX 406LE a6e0XX 20LE 111eXX 2LE 168eXX 2LE 1d31XX fLE 26eXX
9a2LE 21eXX 5e2LE 134bXX 5LE 212aXX acb87FO 1XX 1eEX 60XX 80EX f0XX"

/-- The values for graphemes. -/
def graphemeTable : RunTable String :=
  .ofNamedRuns id graphemeText

/-- The values for words. -/
def wordTable : RunTable String :=
  .ofNamedRuns id wordText

/-- The values for sentences. -/
def sentenceTable : RunTable String :=
  .ofNamedRuns id sentenceText

namespace Segmentation

/-- The values of the code points. -/
def table : Segmentation → RunTable String
  | grapheme => graphemeTable
  | word => wordTable
  | sentence => sentenceTable

/-- The value of the character. -/
def valueOf (segmentation : Segmentation) (c : Char) : String :=
  (segmentation.table.find? c).getD "XX"

/-- The values that can be asked for, by loose name. There is no way to ask for `XX`. -/
def valueNames : Segmentation → List (String × String)
  | grapheme => [
    ("cn", "CN"), ("control", "CN"), ("cr", "CR"), ("ex", "EX"), ("extend", "EX"), ("l", "L"),
    ("lf", "LF"), ("lv", "LV"), ("lvt", "LVT"), ("pp", "PP"), ("prepend", "PP"),
    ("regionalindicator", "RI"), ("ri", "RI"), ("sm", "SM"), ("spacingmark", "SM"), ("t", "T"),
    ("v", "V"), ("zwj", "ZWJ")]
  | word => [
    ("aletter", "LE"), ("le", "LE"), ("cr", "CR"), ("doublequote", "DQ"), ("dq", "DQ"),
    ("ex", "EX"), ("extendnumlet", "EX"), ("extend", "Extend"), ("fo", "FO"), ("format", "FO"),
    ("hebrewletter", "HL"), ("hl", "HL"), ("ka", "KA"), ("katakana", "KA"), ("lf", "LF"),
    ("mb", "MB"), ("midnumlet", "MB"), ("midletter", "ML"), ("ml", "ML"), ("midnum", "MN"),
    ("mn", "MN"), ("newline", "NL"), ("nl", "NL"), ("nu", "NU"), ("numeric", "NU"),
    ("regionalindicator", "RI"), ("ri", "RI"), ("singlequote", "SQ"), ("sq", "SQ"),
    ("wsegspace", "WSegSpace"), ("zwj", "ZWJ")]
  | sentence => [
    ("at", "AT"), ("aterm", "AT"), ("cl", "CL"), ("close", "CL"), ("cr", "CR"), ("ex", "EX"),
    ("extend", "EX"), ("fo", "FO"), ("format", "FO"), ("le", "LE"), ("oletter", "LE"), ("lf", "LF"),
    ("lo", "LO"), ("lower", "LO"), ("nu", "NU"), ("numeric", "NU"), ("sc", "SC"),
    ("scontinue", "SC"), ("se", "SE"), ("sep", "SE"), ("sp", "SP"), ("st", "ST"), ("sterm", "ST"),
    ("up", "UP"), ("upper", "UP")]

end Segmentation

end PathRouting.Unicode
