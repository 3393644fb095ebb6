import PathRouting.Unicode.RunTable

/-!
Scripts of characters, by their four-letter codes: the one script of a character, and the scripts it
is used in.
-/

namespace PathRouting.Unicode

/-- The scripts of all code points, in the first text form of tables. -/
def scriptText : String := "
0Zyyy 41Latn 1aZyyy 6Latn 1aZyyy 2fLatn 1Zyyy fLatn 1Zyyy 5Latn 17Zyyy 1Latn 1fZyyy 1Latn
1c1Zyyy 27Latn 5Zyyy 5Bopo 2Zyyy 14Zinh 70Grek 4Zyyy 1Grek 3Zzzz 2Grek 4Zyyy 1Grek 1Zzzz 4Grek
1Zyyy 1Grek 1Zyyy 1Grek 3Zzzz 1Grek 1Zzzz 1Grek 14Zzzz 1Grek 3fCopt eGrek 10Cyrl 85Zinh 2Cyrl
a9Zzzz 1Armn 26Zzzz 2Armn 32Zzzz 2Armn 3Zzzz 1Hebr 37Zzzz 8Hebr 1bZzzz 4Hebr 6Zzzz bArab 5Zyyy
1Arab 6Zyyy 1Arab eZyyy 1Arab 3Zyyy 1Arab 20Zyyy 1Arab aZinh bArab 1aZinh 1Arab 6cZyyy 1Arab
22Syrc eZzzz 1Syrc 3cZzzz 2Syrc 3Arab 30Thaa 32Zzzz eNkoo 3bZzzz 2Nkoo 3Samr 2eZzzz 2Samr fZzzz
1Mand 1cZzzz 2Mand 1Zzzz 1Syrc bZzzz 5Arab 22Zzzz 5Arab 4bZyyy 1Arab 1dDeva 51Zinh 4Deva fZyyy
2Deva 1aBeng 4Zzzz 1Beng 8Zzzz 2Beng 2Zzzz 2Beng 16Zzzz 1Beng 7Zzzz 1Beng 1Zzzz 3Beng 4Zzzz
2Beng 9Zzzz 2Beng 2Zzzz 2Beng 4Zzzz 8Beng 1Zzzz 4Beng 2Zzzz 1Beng 5Zzzz 2Beng 19Zzzz 2Guru 3Zzzz
1Guru 6Zzzz 4Guru 2Zzzz 2Guru 16Zzzz 1Guru 7Zzzz 1Guru 2Zzzz 1Guru 2Zzzz 1Guru 2Zzzz 2Guru 1Zzzz
1Guru 5Zzzz 4Guru 2Zzzz 2Guru 3Zzzz 3Guru 1Zzzz 7Guru 4Zzzz 1Guru 1Zzzz 7Guru 11Zzzz aGujr 3Zzzz
1Gujr 9Zzzz 1Gujr 3Zzzz 1Gujr 16Zzzz 1Gujr 7Zzzz 1Gujr 2Zzzz 1Gujr 5Zzzz 2Gujr aZzzz 1Gujr 3Zzzz
1Gujr 3Zzzz 2Gujr 1Zzzz fGujr 4Zzzz 2Gujr cZzzz 7Gujr 7Zzzz 1Orya 3Zzzz 1Orya 8Zzzz 2Orya 2Zzzz
2Orya 16Zzzz 1Orya 7Zzzz 1Orya 2Zzzz 1Orya 5Zzzz 2Orya 9Zzzz 2Orya 2Zzzz 2Orya 3Zzzz 7Orya 3Zzzz
4Orya 2Zzzz 1Orya 5Zzzz 2Orya 12Zzzz aTaml 2Zzzz 1Taml 6Zzzz 3Taml 3Zzzz 1Taml 4Zzzz 3Taml 2Zzzz
1Taml 1Zzzz 1Taml 2Zzzz 3Taml 2Zzzz 3Taml 3Zzzz 3Taml cZzzz 4Taml 5Zzzz 3Taml 3Zzzz 1Taml 4Zzzz
2Taml 1Zzzz 6Taml 1Zzzz eTaml 15Zzzz 5Telu dZzzz 1Telu 3Zzzz 1Telu 17Zzzz 1Telu 10Zzzz 2Telu
9Zzzz 1Telu 3Zzzz 1Telu 4Zzzz 7Telu 2Zzzz 1Telu 3Zzzz 1Telu 2Zzzz 2Telu 4Zzzz 2Telu aZzzz 7Telu
9Knda dZzzz 1Knda 3Zzzz 1Knda 17Zzzz 1Knda aZzzz 1Knda 5Zzzz 2Knda 9Zzzz 1Knda 3Zzzz 1Knda 4Zzzz
7Knda 2Zzzz 5Knda 3Zzzz 1Knda 4Zzzz 2Knda aZzzz 1Knda 3Zzzz cMlym dZzzz 1Mlym 3Zzzz 1Mlym 33Zzzz
1Mlym 3Zzzz 1Mlym 6Zzzz 4Mlym 10Zzzz 2Mlym 1aZzzz 1Sinh 3Zzzz 1Sinh 12Zzzz 3Sinh 18Zzzz 1Sinh
9Zzzz 1Sinh 1Zzzz 2Sinh 7Zzzz 3Sinh 1Zzzz 4Sinh 6Zzzz 1Sinh 1Zzzz 1Sinh 8Zzzz 6Sinh aZzzz 2Sinh
3Zzzz cThai 3aZzzz 4Zyyy 1Thai 1cZzzz 25Laoo 2Zzzz 1Laoo 1Zzzz 1Laoo 5Zzzz 1Laoo 18Zzzz 1Laoo
1Zzzz 1Laoo 17Zzzz 2Laoo 5Zzzz 1Laoo 1Zzzz 1Laoo 7Zzzz 1Laoo aZzzz 2Laoo 4Zzzz 20Tibt 48Zzzz
1Tibt 24Zzzz 4Tibt 27Zzzz 1Tibt 24Zzzz 1Tibt fZzzz 1Tibt 7Zyyy 4Tibt 2Zzzz 25Mymr a0Geor 26Zzzz
1Geor 1Zzzz 5Geor 1Zzzz 2Geor 2bZyyy 1Geor 4Hang 100Ethi 49Zzzz 1Ethi 4Zzzz 2Ethi 7Zzzz 1Ethi
1Zzzz 1Ethi 4Zzzz 2Ethi 29Zzzz 1Ethi 4Zzzz 2Ethi 21Zzzz 1Ethi 4Zzzz 2Ethi 7Zzzz 1Ethi 1Zzzz
1Ethi 4Zzzz 2Ethi fZzzz 1Ethi 39Zzzz 1Ethi 4Zzzz 2Ethi 43Zzzz 2Ethi 20Zzzz 3Ethi 1aZzzz 6Cher
56Zzzz 2Cher 6Zzzz 2Cans 280Ogam 1dZzzz 3Runr 4bZyyy 3Runr bZzzz 7Tglg 16Zzzz 9Tglg 1Hano 15Zyyy
2Zzzz 9Buhd 14Zzzz cTagb dZzzz 1Tagb 3Zzzz 1Tagb 2Zzzz cKhmr 5eZzzz 2Khmr aZzzz 6Khmr aZzzz
6Mong 2Zyyy 2Mong 1Zyyy 1Mong 14Zzzz 6Mong 59Zzzz 7Mong 2bZzzz 5Cans 46Zzzz aLimb 1fZzzz 1Limb
cZzzz 4Limb cZzzz 4Limb 1Zzzz 3Limb cTale 1eZzzz 2Tale 5Zzzz bTalu 2cZzzz 4Talu 1aZzzz 6Talu
bZzzz 3Talu 2Khmr 20Bugi 1cZzzz 2Bugi 2Lana 3fZzzz 1Lana 1dZzzz 2Lana bZzzz 6Lana aZzzz 6Lana
eZzzz 2Zinh 2eZzzz 2Zinh cZzzz 14Bali 4dZzzz 1Bali 32Sund 40Batk 34Zzzz 8Batk 4Lepc 38Zzzz 3Lepc
fZzzz 3Lepc 3Olck 30Cyrl bZzzz 5Geor 2bZzzz 2Geor 3Sund 8Zzzz 8Zinh 3Zyyy 1Zinh dZyyy 1Zinh
7Zyyy 4Zinh 1Zyyy 6Zinh 1Zyyy 3Zinh 2Zyyy 1Zzzz 5Latn 26Grek 5Cyrl 1Latn 31Grek 5Latn 4Grek
5Latn dCyrl 1Latn 46Grek 1Zinh 40Latn 100Grek 16Zzzz 2Grek 6Zzzz 2Grek 26Zzzz 2Grek 6Zzzz 2Grek
8Zzzz 1Grek 1Zzzz 1Grek 1Zzzz 1Grek 1Zzzz 1Grek 1fZzzz 2Grek 35Zzzz 1Grek fZzzz 1Grek eZzzz
2Grek 6Zzzz 1Grek 13Zzzz 2Grek 3Zzzz 1Grek 9Zzzz 1Zyyy cZinh 2Zyyy 57Zzzz 1Zyyy bLatn 1Zzzz
2Zyyy bLatn 1Zyyy fZzzz 1Latn dZzzz 3Zyyy 22Zzzz eZinh 21Zzzz fZyyy 26Grek 1Zyyy 3Latn 2Zyyy
6Latn 1Zyyy 1bLatn 1Zyyy 11Latn 29Zyyy 3Zzzz 4Zyyy 29aZzzz 16Zyyy bZzzz 15Zyyy 3a0Brai 100Zyyy
274Zzzz 2Zyyy 8aGlag 60Latn 20Copt 74Zzzz 5Copt 7Geor 26Zzzz 1Geor 1Zzzz 5Geor 1Zzzz 2Tfng
38Zzzz 7Tfng 2Zzzz eTfng 1Ethi 17Zzzz 9Ethi 7Zzzz 1Ethi 7Zzzz 1Ethi 7Zzzz 1Ethi 7Zzzz 1Ethi
7Zzzz 1Ethi 7Zzzz 1Ethi 7Zzzz 1Ethi 7Zzzz 1Cyrl 20Zyyy 5eZzzz 22Hani 1aZzzz 1Hani 59Zzzz cHani
d6Zzzz 1aZyyy 15Hani 1Zyyy 1Hani 1Zyyy 19Hani 9Zinh 4Hang 2Zyyy 8Hani 4Zyyy 4Zzzz 1Hira 56Zzzz
2Zinh 2Zyyy 2Hira 3Zyyy 1Kana 5aZyyy 2Kana 3Zzzz 5Bopo 2bZzzz 1Hang 5eZzzz 1Zyyy 10Bopo 20Zyyy
26Zzzz 9Zyyy 1Kana 10Hang 1fZzzz 1Zyyy 40Hang 1fZyyy 51Kana 2fZyyy 1Kana 58Zyyy a8Hani 19c0Zyyy
40Hani 5200Yiii 48dZzzz 3Yiii 37Zzzz 9Lisu 30Vaii 12cZzzz 14Cyrl 60Bamu 58Zzzz 8Zyyy 22Latn
66Zyyy 3Latn 52Zzzz 14Latn fSylo 2dZzzz 3Zyyy aZzzz 6Phag 38Zzzz 8Saur 46Zzzz 8Saur cZzzz 6Deva
20Kali 2eZyyy 1Kali 1Rjng 24Zzzz bRjng 1Hang 1dZzzz 3Java 4eZzzz 1Zyyy 1Java aZzzz 4Java 2Mymr
1fZzzz 1Cham 37Zzzz 9Cham eZzzz 2Cham aZzzz 2Cham 4Mymr 20Tavt 43Zzzz 18Tavt 5Mtei 17Zzzz aEthi
6Zzzz 2Ethi 6Zzzz 2Ethi 6Zzzz 9Ethi 7Zzzz 1Ethi 7Zzzz 1Latn 2bZyyy 1Latn 9Grek 1Latn 4Zyyy 2Zzzz
4Cher 50Mtei 2eZzzz 2Mtei aZzzz 6Hang 2ba4Zzzz cHang 17Zzzz 4Hang 31Zzzz 2104Hani 16eZzzz 2Hani
6aZzzz 26Latn 7Zzzz cArmn 5Zzzz 5Hebr 1aZzzz 1Hebr 5Zzzz 1Hebr 1Zzzz 1Hebr 2Zzzz 1Hebr 2Zzzz
1Hebr aArab 1eeZyyy 2Arab 90Zzzz 20Arab 10Zinh 10Zyyy aZzzz 6Zinh eCyrl 2Zyyy 23Zzzz 1Zyyy
13Zzzz 1Zyyy 4Zzzz 4Arab 5Zzzz 1Arab 87Zzzz 2Zyyy 1Zzzz 1Zyyy 20Latn 1aZyyy 6Latn 1aZyyy bKana
aZyyy 1Kana 2dZyyy 2Hang 1fZzzz 3Hang 6Zzzz 2Hang 6Zzzz 2Hang 6Zzzz 2Hang 3Zzzz 3Zyyy 7Zzzz
1Zyyy 7Zzzz aZyyy 5Zzzz 2Linb cZzzz 1Linb 1aZzzz 1Linb 13Zzzz 1Linb 2Zzzz 1Linb fZzzz 2Linb
eZzzz 22Linb 7bZzzz 5Zyyy 3Zzzz 4Zyyy 2dZzzz 3Zyyy 9Grek 4fZzzz 1Zyyy dZzzz 3Grek 1Zzzz 2fZyyy
2dZinh 1Zzzz 82Lyci 1dZzzz 3Cari 31Zzzz fZinh 1Zyyy 1bZzzz 4Ital 24Zzzz 9Ital 3Goth 1bZzzz 5Perm
2bZzzz 5Ugar 1eZzzz 1Ugar 1Xpeo 24Zzzz 4Xpeo eZzzz 2aDsrt 50Shaw 30Osma 1eZzzz 2Osma aZzzz 6Osge
24Zzzz 4Osge 24Zzzz 4Elba 28Zzzz 8Aghb 34Zzzz bAghb 1Vith bZzzz 1Vith fZzzz 1Vith 7Zzzz 1Vith
2Zzzz 1Vith bZzzz 1Vith fZzzz 1Vith 7Zzzz 1Vith 2Zzzz 3Todr 34Zzzz cLina 137Zzzz 9Lina 16Zzzz
aLina 8Zzzz 18Latn 6Zzzz 1Latn 2aZzzz 1Latn 9Zzzz 45Cprt 6Zzzz 2Cprt 1Zzzz 1Cprt 2cZzzz 1Cprt
2Zzzz 3Cprt 1Zzzz 2Cprt 1Armi 16Zzzz 1Armi 9Palm 20Nbat 1fZzzz 8Nbat 9Zzzz 30Hatr 13Zzzz 1Hatr
2Zzzz 5Hatr 5Phnx 1cZzzz 3Phnx 1Lydi 1aZzzz 5Lydi 1Sidt 1aZzzz 26Mero 20Merc 18Zzzz 4Merc 14Zzzz
2Merc 2eKhar 4Zzzz 1Khar 2Zzzz 5Khar 8Zzzz 1Khar 3Zzzz 1Khar 1dZzzz 2Khar 3Zzzz 4Khar aZzzz
7Khar 9Zzzz 7Sarb 20Narb 20Zzzz 20Mani 27Zzzz 4Mani cZzzz 9Avst 36Zzzz 3Avst 7Prti 16Zzzz 2Prti
8Phli 13Zzzz 5Phli 8Phlp 12Zzzz 7Phlp 4Zzzz cPhlp 7Zzzz 50Orkh 49Zzzz 37Hung 33Zzzz dHung 33Zzzz
7Hung 6Rohg 28Zzzz 8Rohg aZzzz 6Gara 26Zzzz 3Gara 1dZzzz 8Gara 2Zzzz d0Arab 1fZzzz 1Yezi 2aZzzz
1Yezi 3Zzzz 2Yezi 2Zzzz 10Arab 6Zzzz 8Arab 9Zzzz 21Arab 6Sogo 28Zzzz 8Sogd 2aZzzz 16Ougr 1aZzzz
26Chrs 1cZzzz 14Elym 17Zzzz 9Brah 4eZzzz 4Brah 24Zzzz 9Brah 1Kthi 43Zzzz aKthi 1Zzzz 2Sora
19Zzzz 7Sora aZzzz 6Cakm 35Zzzz 1Cakm 12Zzzz 8Mahj 27Zzzz 9Shrd 60Zzzz 1Sinh 14Zzzz bKhoj 12Zzzz
1Khoj 2fZzzz 3eMult 7Zzzz 1Mult 1Zzzz 1Mult 4Zzzz 1Mult fZzzz 1Mult bZzzz 6Sind 3bZzzz 5Sind
aZzzz 6Gran 4Zzzz 1Gran 8Zzzz 2Gran 2Zzzz 2Gran 16Zzzz 1Gran 7Zzzz 1Gran 2Zzzz 1Gran 5Zzzz 1Zinh
1Gran 9Zzzz 2Gran 2Zzzz 2Gran 3Zzzz 2Gran 1Zzzz 6Gran 1Zzzz 5Gran 7Zzzz 2Gran 7Zzzz 3Gran 5Zzzz
bTutg aZzzz 1Tutg 1Zzzz 2Tutg 1Zzzz 1Tutg 26Zzzz 1Tutg aZzzz 1Tutg 1Zzzz 2Tutg 1Zzzz 1Tutg 4Zzzz
1Tutg aZzzz 1Tutg 2Zzzz 8Tutg 2Zzzz 1dNewa 5cZzzz 1Newa 5Zzzz 1eTirh 48Zzzz 8Tirh aZzzz a6Sidd
36Zzzz 2Sidd 26Zzzz 22Modi 45Zzzz bModi aZzzz 6Mong dZzzz 13Takr 3aZzzz 6Takr aZzzz 6Mymr 14Zzzz
1cAhom 1bZzzz 2Ahom fZzzz 4Ahom 17Zzzz b9Dogr 3cZzzz 64Wara 53Zzzz cWara 1Diak 7Zzzz 2Diak 1Zzzz
2Diak 8Zzzz 1Diak 2Zzzz 1Diak 1eZzzz 1Diak 2Zzzz 2Diak cZzzz 9Diak aZzzz 46Nand 8Zzzz 2Nand
2eZzzz 2Nand bZzzz 1bZanb 48Zzzz 8Soyo 53Zzzz dCans 10Pauc 39Zzzz 7Deva aZzzz 56Shrd 8Zzzz
58Sunu 22Zzzz eSunu aZzzz 6Bhks 9Zzzz 1Bhks 2dZzzz 1Bhks eZzzz aBhks 1dZzzz 3Marc 20Zzzz 2Marc
16Zzzz 1Marc eZzzz 49Gonm 7Zzzz 1Gonm 2Zzzz 1Gonm 2cZzzz 3Gonm 1Zzzz 1Gonm 2Zzzz 1Gonm 9Zzzz
8Gonm aZzzz 6Gong 6Zzzz 1Gong 2Zzzz 1Gong 25Zzzz 1Gong 2Zzzz 1Gong 6Zzzz 7Gong aZzzz 6Tols
2cZzzz 4Tols aZzzz f6Maka 19Zzzz 7Kawi 11Zzzz 1Kawi 29Zzzz 3Kawi 1dZzzz 55Lisu 1Zzzz fTaml
32Zzzz dTaml 1Xsux 39aZzzz 66Xsux 6fZzzz 1Xsux 5Zzzz bXsux c4Zzzz a4cCpmn 63Zzzz dEgyp 456Zzzz
aEgyp f9bZzzz 5Hluw 247Zzzz 1ab9Gukh 3aZzzz 6c6Bamu 239Zzzz 7Mroo 1fZzzz 1Mroo aZzzz 4Mroo 2Tnsa
4fZzzz 1Tnsa aZzzz 6Bass 1eZzzz 2Bass 6Zzzz aHmng 46Zzzz aHmng aZzzz 1Hmng 7Zzzz 1Hmng 15Zzzz
5Hmng 13Zzzz 1b0Krai 3aZzzz c6Medf 5bZzzz 5Berf 19Zzzz 2Berf 19Zzzz 2cPlrd 4bZzzz 4Plrd 39Zzzz
7Plrd 11Zzzz 40Tang 1Nshu 1Hani 2Kits 1Zzzz bHani 7Zzzz 9Tang 1b00Kits 1d6Zzzz 29Kits 1Tang
1fZzzz 61Tang 73Zzzz 21fdKana 4Zzzz 1Kana 7Zzzz 1Kana 2Zzzz 1Kana 1Hira 11fKana 3Zzzz fHira
1Zzzz 1dHira 3Zzzz 2Kana 1Zzzz eKana 4Zzzz 8Nshu 18cZzzz 904Dupl 6bZzzz 5Dupl dZzzz 3Dupl 9Zzzz
7Dupl aZzzz 2Dupl 4Zyyy 4Zzzz f5cZyyy fdZzzz 3Zyyy 1b4Zzzz 6Zyyy 17Zzzz fZyyy 11Zzzz fZinh
2eZzzz 2Zinh 17Zzzz 9Zyyy 74Zzzz 3cZyyy f6Zzzz aZyyy 27Zzzz 2Zyyy 3eZinh 3Zyyy 11Zinh 8Zyyy
2Zinh 7Zyyy 1eZinh 4Zyyy 3dZzzz 15Grek 46Zzzz 7aZyyy 14Zzzz cZyyy 14Zzzz cZyyy 57Zzzz 9Zyyy
19Zzzz 87Zyyy 55Zzzz 1Zyyy 47Zzzz 1Zyyy 2Zzzz 2Zyyy 1Zzzz 2Zyyy 2Zzzz 2Zyyy 4Zzzz 1Zyyy cZzzz
1Zyyy 1Zzzz 1Zyyy 7Zzzz 1Zyyy 41Zzzz 1Zyyy 4Zzzz 2Zyyy 8Zzzz 1Zyyy 7Zzzz 1Zyyy 1cZzzz 1Zyyy
4Zzzz 1Zyyy 5Zzzz 1Zyyy 1Zzzz 3Zyyy 7Zzzz 1Zyyy 154Zzzz 2Zyyy 124Zzzz 2Zyyy 32Sgnw 28cZzzz fSgnw
5Zzzz 1Sgnw fZzzz 450Latn 1fZzzz 6Latn 6Zzzz d5Glag 7Zzzz 1Glag 11Zzzz 2Glag 7Zzzz 1Glag 2Zzzz
1Glag 5Zzzz 5Cyrl 3eZzzz 21Cyrl 1Zzzz 70Hmnp 2dZzzz 3Hmnp eZzzz 2Hmnp aZzzz 4Hmnp 2Zzzz 140Toto
1fZzzz 11Wcho 3aZzzz 5Wcho 1Zzzz 1d0Nagm 2aZzzz d6Onao 2bZzzz 4Onao 1Zzzz c0Tayo 1fZzzz 1Tayo
16Zzzz 8Tayo 2Zzzz e0Ethi 7Zzzz 1Ethi 4Zzzz 1Ethi 2Zzzz 1Ethi fZzzz 1Mend c5Zzzz 2Mend 10Zzzz
29Adlm 4cZzzz 4Adlm aZzzz 4Adlm 2Zzzz 311Zyyy 44Zzzz 4cZyyy 3dZzzz c2Arab 4Zzzz 1Arab 1bZzzz
1Arab 2Zzzz 1Arab 1Zzzz 2Arab 1Zzzz 1Arab aZzzz 1Arab 4Zzzz 1Arab 1Zzzz 1Arab 1Zzzz 6Arab 1Zzzz
4Arab 1Zzzz 1Arab 1Zzzz 1Arab 1Zzzz 1Arab 3Zzzz 1Arab 2Zzzz 1Arab 1Zzzz 2Arab 1Zzzz 1Arab 1Zzzz
1Arab 1Zzzz 1Arab 1Zzzz 1Arab 1Zzzz 1Arab 2Zzzz 1Arab 1Zzzz 2Arab 4Zzzz 1Arab 7Zzzz 1Arab 4Zzzz
1Arab 4Zzzz 1Arab 1Zzzz 1Arab aZzzz 1Arab 11Zzzz 5Arab 3Zzzz 1Arab 5Zzzz 1Arab 11Zzzz 34Arab
2Zzzz 10eZyyy 2cZzzz 4Zyyy 64Zzzz cZyyy fZzzz 2Zyyy fZzzz 1Zyyy fZzzz 1Zyyy 25Zzzz aZyyy aeZzzz
38Zyyy 1aHira 1Zyyy 2Zzzz dZyyy 2cZzzz 4Zyyy 9Zzzz 7Zyyy 2Zzzz eZyyy 6Zzzz 9aZyyy 3d9Zzzz 3Zyyy
11Zzzz 3Zyyy dZzzz 3Zyyy daZzzz 6Zyyy cZzzz 4Zyyy 1Zzzz fZyyy cZzzz 4Zyyy 38Zzzz 8Zyyy aZzzz
6Zyyy 28Zzzz 8Zyyy 1eZzzz 2Zyyy cZzzz 4Zyyy 2Zzzz eZyyy 9Zzzz 27Zyyy 158Zzzz 8Zyyy eZzzz 2Zyyy
dZzzz 3Zyyy bZzzz 3Zyyy 39Zzzz 1Zyyy 1Zzzz 4Zyyy 10Zzzz 2Zyyy cZzzz 4Zyyy aZzzz 7Zyyy 93Zzzz
1Zyyy 67Zzzz 405Hani a6e0Zzzz 20Hani 111eZzzz 2Hani 168eZzzz 2Hani 1d31Zzzz fHani 26eZzzz
9a2Hani 21eZzzz 5e2Hani 134bZzzz 5Hani 212aZzzz acb87Zyyy 1Zzzz 1eZyyy 60Zzzz 80Zinh f0Zzzz"

/-- The scripts of all code points. -/
def scriptTable : RunTable String :=
  .ofNamedRuns id scriptText

/-- The code of the script of a character, `Zzzz` if it has none. -/
def script (c : Char) : String :=
  (scriptTable.find? c).getD "Zzzz"

/-- The code points used in other scripts than their own alone, in the first text form of tables.
Each run names all the scripts, four letters each; `None` marks runs without extensions. -/
def scriptExtensionText : String := "
0None b7AvstCariCoptDuplElbaGeorGlagGongGothGrekHaniLatnLydiMahjPermShaw 1None
204BengCyrlDevaLatnLisuThaiToto 1None aBopoLatn 1None 1BopoLatn 3None 1LatnLisu 1None 9LatnThai
1None 1BopoLatn 1None 26CherCoptCyrlGrekLatnPermTaleSunu 1CherCyrlGrekLatnOsgeTaleSunuTodr
1CherCyrlLatnTfng 1GlagLatnSyrcThaiSunu 1AghbCherCoptCyrlGothGrekLatnOsgeSyrcTfngTodr
1CoptElbaGlagGothKanaLatn 1CyrlGrekLatnPermTfng 1CoptDuplHebrLatnPermSyrcTaleTfngTodr
1ArmnCyrlDuplGothGrekHebrLatnPermSyrcTaleTfng 1LatnTfng 1DuplLatnSyrc 1CherCyrlLatnOsge
1CherLatnTale 1LatnSunu 1EthiLatn 1None 1LatnSunu 1CyrlLatnTodr 1None 1GrekLatnPermTodr 1None
fCherDuplKanaLatnSyrcTfng 1CherDuplLatnSyrc 1LatnSyrc 1None 7LatnSyrcSunu 1LatnSyrc 1None
1CherLatnSyrc 1AghbCherGothLatnSyrcThaiSunu 1None 10Grek 1None 2Grek 1None 12LatnOsge 1None
5AghbLatnTodr 1None 4Latn dNone 4CoptGrek 2None 10dCyrlPerm 1CyrlGlag 1CyrlLatn 2CyrlGlag 1None
101ArmnGeorGlag 1None 82ArabNkooRohgSyrcThaaYeziGara 1None eArabNkooRohgSyrcThaaYeziGara
1ArabSyrcThaa 1None 2AdlmArabNkooRohgSyrcThaaYeziGara 1None
20AdlmArabMandManiOugrPhlpRohgSogdSyrc 1None aArabSyrc bNone aArabThaaYezi aNone 6ArabSyrc 1None
63ArabRohg 1None 27cBengDevaGranGujrGuruKndaLatnMlymNandNewaOryaShrdTamlTeluTirh
1BengDevaGranGujrGuruKndaLatnMlymNewaOryaTamlTeluTirh 1None
11BengDevaDogrGongGonmGranGujrGuruKndaMahjMlymNandOryaSindSinhSyloTakrTamlTeluTirhOnao
1BengDevaDogrGongGonmGranGujrGuruKndaLimbMahjMlymNandOryaSindSinhSyloTakrTamlTeluTirhGukhOnao
1DevaDogrKthiMahj aNone 76BengCakmSylo aNone 76GuruMult aNone 76GujrKhoj aNone f6GranTaml eNone
f2KndaNandTutg aNone 350CakmMymrTale aNone b1GeorGlagLatn 1None 5efRunr 3None 47BuhdHanoTagbTglg
2None cbMongPhag 2None 1MongPhag 1None 4caBengDevaGranKnda 1Deva 1BengDevaGranKnda 1DevaGranKnda
1Deva 1BengDevaNewaTeluTirh 1BengDevaTelu 1DevaNewaShrd 1BengDevaNewaTelu 1DevaShrd
1DevaKndaMlymOryaTamlTelu 1Deva 1DevaShrd 2Deva 2DevaShrd 1BengDeva 1DevaNewaTirh 1Deva
6DevaNandNewa 1BengDevaShrd 1DevaNewa 1Deva 1BengDevaNewaShrd 1Deva
4BengDevaGranKndaMlymNandOryaSinhTeluTirhTutg 1DevaGran 1DevaGranKndaTutg 1BengDeva 2Beng
1DevaGran 2Nand 1None c5Grek 2None 36CyrlLatnSyrc 1None 1Syrc 1None 234LatnMongPhag 1None
1fAdlmArab 1None aCariGeorGlagHungLyciOrkh 1None 2CariGrekHungMero 1None 92DevaGranLatn 1None
d26CoptLatn 1None 18AvstOrkh 1AvstCariGeorHungKthiLydiSamr 1None aDupl 1None 4AdlmArabHung 1None
1CyrlGlag 1None 1acHaniTang 10None 1BopoHangHaniHiraKanaMongYiii
1BopoHangHaniHiraKanaMongPhagYiii 1BopoHangHaniHiraKana 1None 2Hani 1None
1BopoHangHaniHiraKanaMongTibtYiii 2BopoHangHaniHiraKanaLisuMongTibtYiii
2BopoHangHaniHiraKanaYiii 6None 1BopoHangHaniHiraKana 1BopoHangHaniHiraKanaYiii
8BopoHangHaniHiraKana 4None aBopoHani 4None 2BopoHangHaniHiraKana 1HiraKana 5None
1BopoHangHaniHiraKana 1None 4HaniHiraKana 2Hani 2None 59HiraKana 4None 3HiraKana 1None
5aBopoHangHaniHiraKanaYiii 1HiraKana 1None 93Hani 10None 20Hani 26None 9HaniTang 1None 30Hani
28None 38Hani 31None fHani cNone 33Hani 1None 58Hani 19None aHani 5None 60Hani 1fNone
7270CyrlGlag 1None 90HaniLatn 8None
128DevaDogrGujrGuruKhojKndaKthiMahjMlymModiNandShrdSindTakrTirhTutg
3DevaDogrGujrGuruKhojKndaKthiMahjModiNandShrdSindTakrTirhTutg
3DevaDogrGujrGuruKhojKthiMahjModiSindTakrTirh 2DevaDogrGujrGuruKhojKthiMahjModiShrdSindTakrTirh
1DevaDogrGujrGuruKhojKthiMahjModiSindTakrTirh 1None b7BengDevaTutg 1None 1DevaTaml 1None
3aKaliLatnMymr 1None a0BugiJava 1None 536eArabNkoo 2None b2ArabThaa 1None aArabThaa 1None
47BopoHangHaniHiraKana 2None 11aBopoHangHaniHiraKanaYiii 5None aHiraKana 1None 2dHiraKana 2None
160CpmnCprtLinb 2CprtLinb 1None 4CprtLinaLinb 2dNone 3CprtLinb 9None 1a0ArabCopt 1cNone
7f6ManiOugr 1None 80eGranTaml 1None 1GranTaml 1None 37GranTaml 2None c93GranTaml 2None 1GranTaml
1None 9cccDupl 4None 16bcHani 12None 1edeHani 2None"

/-- The text in pieces of four characters. -/
def codesOf : List Char → List String
  | a :: b :: c :: d :: rest => String.ofList [a, b, c, d] :: codesOf rest
  | _ => []

/-- The scripts of the code points that are used in others than their own alone, empty for the
rest. -/
def scriptExtensionTable : RunTable (List String) :=
  .ofNamedRuns (fun codes => if codes = "None" then [] else codesOf codes.toList)
    scriptExtensionText

/-- The codes of the scripts that the character is used in. -/
def scriptExtensions (c : Char) : List String :=
  match (scriptExtensionTable.find? c).getD [] with
  | [] => [script c]
  | codes => codes

end PathRouting.Unicode
