import DataSchema.Unicode.Script

/-!
# Shared characters

A character can be used with more scripts than its own. What is common or inherited and used with a
few scripts only counts for those scripts, and no longer as common or inherited.
-/

namespace DataSchema.Unicode.Script

/-- The characters that a script has beside its own, by its short name. -/
def shared : List (String × Table) :=
  [("Adlm", .ofText "61F 640 204F 2E41"),
   ("Arab", .ofText "60C 61B 61F 640 64B-655 670 204F 2E41 FD3E-FD3F 102E0-102FB"),
   ("Armn", .ofText "308"),
   ("Avst", .ofText "B7 2E30-2E31"),
   ("Beng", .ofText
    "2BC 951-952 964-965 1CD0 1CD2 1CD5-1CD6 1CD8 1CE1 1CEA 1CED 1CF2 1CF5-1CF7 A8F1"),
   ("Bopo", .ofText
    "2C7 2C9-2CB 2D9 3001-3003 3008-3011 3013-301F 302A-302D 3030 3037 30FB FE45-FE46 FF61-FF65"),
   ("Bugi", .ofText "A9CF"),
   ("Buhd", .ofText "1735-1736"),
   ("Cari", .ofText "B7 205A 205D 2E31"),
   ("Aghb", .ofText "304 331 35E"),
   ("Cakm", .ofText "9E6-9EF 1040-1049"),
   ("Cher", .ofText "300-302 304 30B-30C 323-324 330-331"),
   ("Copt", .ofText "B7 300 304-305 307 374-375 2E17 102E0-102FB"),
   ("Cprt", .ofText "10100-10102 10107-10133 10137-1013F"),
   ("Cpmn", .ofText "10100-10101"),
   ("Cyrl", .ofText "2BC 300-302 304 306 308 30B 311 485-486 1DF8 2E43"),
   ("Deva", .ofText "2BC 951-952 964-965 1CD0-1CF6 1CF8-1CF9 20F0 A830-A839"),
   ("Dogr", .ofText "964-96F A830-A839"),
   ("Dupl", .ofText "B7 307-308 30A 323-324 2E3C 1BCA0-1BCA3"),
   ("Elba", .ofText "B7 305"),
   ("Ethi", .ofText "30E"),
   ("Gara", .ofText "60C 61B 61F"),
   ("Geor", .ofText "B7 589 10FB 205A 2E31"),
   ("Glag", .ofText "B7 303 305 484 487 589 10FB 205A 2E43 A66F"),
   ("Goth", .ofText "B7 304-305 308 331"),
   ("Gran", .ofText
    "951-952 964-965 BE6-BF3 1CD0 1CD2-1CD3 1CF2-1CF4 1CF8-1CF9 20F0 1133B 11FD0-11FD1 11FD3"),
   ("Grek", .ofText "B7 300-301 304 306 308 313 342 345 374 1DC0-1DC1 205D"),
   ("Gujr", .ofText "951-952 964-965 A830-A839"),
   ("Gong", .ofText "B7 964-965"),
   ("Guru", .ofText "951-952 964-965 A830-A839"),
   ("Gukh", .ofText "965"),
   ("Hani", .ofText
    "B7 2FF0-2FFF 3001-3003 3006 3008-3011 3013-301F 302A-302D 3030 3037 303C-303F 30FB 3190-319F
    31C0-31E5 31EF 3220-3247 3280-32B0 32C0-32CB 32FF 3358-3370 337B-337F 33E0-33FE A700-A707
    FE45-FE46 FF61-FF65 1D360-1D371 1F250-1F251"),
   ("Hang", .ofText "3001-3003 3008-3011 3013-301F 3030 3037 30FB FE45-FE46 FF61-FF65"),
   ("Rohg", .ofText "60C 61B 61F 640 6D4"),
   ("Hano", .ofText "1735-1736"),
   ("Hebr", .ofText "307-308"),
   ("Hira", .ofText
    "3001-3003 3008-3011 3013-301F 3030-3035 3037 303C-303D 3099-309C 30A0 30FB-30FC FE45-FE46
    FF61-FF65 FF70 FF9E-FF9F"),
   ("Java", .ofText "A9CF"),
   ("Kthi", .ofText "966-96F 2E31 A830-A839"),
   ("Knda", .ofText "951-952 964-965 1CD0 1CD2-1CD3 1CDA 1CF2 1CF4 A830-A835"),
   ("Kana", .ofText
    "305 323 3001-3003 3008-3011 3013-301F 3030-3035 3037 303C-303D 3099-309C 30A0 30FB-30FC
    FE45-FE46 FF61-FF65 FF70 FF9E-FF9F"),
   ("Kali", .ofText "A92E"),
   ("Khoj", .ofText "AE6-AEF A830-A839"),
   ("Sind", .ofText "964-965 A830-A839"),
   ("Latn", .ofText
    "B7 2BC 2C7 2C9-2CB 2CD 2D7 2D9 300-30E 310-311 313 323-325 32D-32E 330-331 358 35E 363-36F
    485-486 951-952 10FB 1DF8 202F 20F0 2E17 A700-A707 A92E"),
   ("Limb", .ofText "965"),
   ("Lina", .ofText "10107-10133"),
   ("Linb", .ofText "10100-10102 10107-10133 10137-1013F"),
   ("Lisu", .ofText "2BC 2CD 300A-300B"),
   ("Lyci", .ofText "205A"),
   ("Lydi", .ofText "B7 2E31"),
   ("Mahj", .ofText "B7 964-96F A830-A839"),
   ("Mlym", .ofText "951-952 964-965 1CDA 1CF2 A830-A832"),
   ("Mand", .ofText "640"),
   ("Mani", .ofText "640"),
   ("Gonm", .ofText "964-965"),
   ("Mero", .ofText "205D"),
   ("Modi", .ofText "A830-A839"),
   ("Mong", .ofText "1802-1803 1805 202F 3001-3002 3008-300B"),
   ("Mult", .ofText "A66-A6F"),
   ("Mymr", .ofText "A92E"),
   ("Nand", .ofText "951 964-965 CE6-CEF 1CE9 1CF2 1CFA A830-A835"),
   ("Newa", .ofText "951-952 1CD5 1CD7-1CD8 1CE2 1CE9 1CEB 1CED"),
   ("Nkoo", .ofText "60C 61B 61F FD3E-FD3F"),
   ("Hung", .ofText "205A 205D 2E31 2E41"),
   ("Perm", .ofText "B7 300 306-308 313 483"),
   ("Orkh", .ofText "205A 2E30"),
   ("Ougr", .ofText "640 10AF2"),
   ("Onao", .ofText "964-965"),
   ("Orya", .ofText "951-952 964-965 1CDA 1CF2"),
   ("Osge", .ofText "301 304 30B 358"),
   ("Phag", .ofText "1802-1803 1805 202F 3002"),
   ("Phlp", .ofText "640"),
   ("Runr", .ofText "16EB-16ED"),
   ("Samr", .ofText "2E31"),
   ("Shrd", .ofText "951 1CD7 1CD9 1CDC-1CDD 1CE0 1CEA 1CED A830-A835 A838"),
   ("Shaw", .ofText "B7"),
   ("Sinh", .ofText "964-965 1CF2"),
   ("Sogd", .ofText "640"),
   ("Sunu", .ofText "300-301 303 30D 310 32D 331"),
   ("Sylo", .ofText "964-965 9E6-9EF"),
   ("Syrc", .ofText
    "303-304 307-308 30A 323-325 32D-32E 330-331 60C 61B-61C 61F 640 64B-655 670 1DF8 1DFA"),
   ("Tglg", .ofText "1735-1736"),
   ("Tagb", .ofText "1735-1736"),
   ("Tale", .ofText "300-301 307-308 30C 1040-1049"),
   ("Takr", .ofText "964-965 A830-A839"),
   ("Taml", .ofText "951-952 964-965 1CDA A8F3 11301 11303 1133B-1133C"),
   ("Tang", .ofText "2FF0-2FFF 31EF"),
   ("Telu", .ofText "951-952 964-965 1CD5-1CD6 1CD8 1CDA 1CF2"),
   ("Thaa", .ofText "60C 61B-61C 61F 660-669 FDF2 FDFD"),
   ("Thai", .ofText "2BC 2D7 303 331"),
   ("Tibt", .ofText "3008-300B"),
   ("Tfng", .ofText "302 304 306-309 323"),
   ("Tirh", .ofText "951-952 964-965 1CD5 1CE2 1CF2 A830-A839"),
   ("Todr", .ofText "301 304 307 311 313 35E"),
   ("Toto", .ofText "2BC"),
   ("Tutg", .ofText "CE6-CEF 1CF2 1CF4 A830-A835 A8F1"),
   ("Yezi", .ofText "60C 61B 61F 660-669"),
   ("Yiii", .ofText "3001-3002 3008-3011 3014-301B 30FB FF61-FF65")]

/-- Every character that a script has beside its own. -/
def allShared : Table := shared.flatMap (·.2)

end DataSchema.Unicode.Script
