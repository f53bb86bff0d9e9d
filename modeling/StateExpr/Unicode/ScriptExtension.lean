import StateExpr.Unicode.Script
/-!
# Characters shared between scripts

Some characters are written in several scripts.  The extension of a script
is the script with the characters that it shares; those of the two general scripts, common
and inherited, leave those characters out.
-/

namespace StateExpr.Script

/-- The characters that a script shares: its folded short name, and code points. -/
def shared : List (String × String) :=
  [("adlm",
      "61f 640 204f 2e41"),
    ("aghb",
      "304 331 35e"),
    ("arab",
      "60c 61b 61f 640 64b-655 670 204f 2e41 fd3e-fd3f 102e0-102fb"),
    ("armn",
      "308"),
    ("avst",
      "b7 2e30-2e31"),
    ("beng",
      "2bc 951-952 964-965 1cd0 1cd2 1cd5-1cd6 1cd8 1ce1 1cea 1ced 1cf2 1cf5-1cf7 a8f1"),
    ("bopo",
      "2c7 2c9-2cb 2d9 3001-3003 3008-3011 3013-301f 302a-302d 3030 3037 30fb fe45-fe46
ff61-ff65"),
    ("bugi",
      "a9cf"),
    ("buhd",
      "1735-1736"),
    ("cakm",
      "9e6-9ef 1040-1049"),
    ("cari",
      "b7 205a 205d 2e31"),
    ("cher",
      "300-302 304 30b-30c 323-324 330-331"),
    ("copt",
      "b7 300 304-305 307 374-375 2e17 102e0-102fb"),
    ("cpmn",
      "10100-10101"),
    ("cprt",
      "10100-10102 10107-10133 10137-1013f"),
    ("cyrl",
      "2bc 300-302 304 306 308 30b 311 485-486 1df8 2e43"),
    ("deva",
      "2bc 951-952 964-965 1cd0-1cf6 1cf8-1cf9 20f0 a830-a839"),
    ("dogr",
      "964-96f a830-a839"),
    ("dupl",
      "b7 307-308 30a 323-324 2e3c 1bca0-1bca3"),
    ("elba",
      "b7 305"),
    ("ethi",
      "30e"),
    ("geor",
      "b7 589 10fb 205a 2e31"),
    ("glag",
      "b7 303 305 484 487 589 10fb 205a 2e43 a66f"),
    ("gong",
      "b7 964-965"),
    ("gonm",
      "964-965"),
    ("goth",
      "b7 304-305 308 331"),
    ("gran",
      "951-952 964-965 be6-bf3 1cd0 1cd2-1cd3 1cf2-1cf4 1cf8-1cf9 20f0 1133b 11fd0-11fd1 11fd3"),
    ("grek",
      "b7 300-301 304 306 308 313 342 345 374 1dc0-1dc1 205d"),
    ("gujr",
      "951-952 964-965 a830-a839"),
    ("guru",
      "951-952 964-965 a830-a839"),
    ("hang",
      "3001-3003 3008-3011 3013-301f 3030 3037 30fb fe45-fe46 ff61-ff65"),
    ("hani",
      "b7 2ff0-2fff 3001-3003 3006 3008-3011 3013-301f 302a-302d 3030 3037 303c-303f 30fb
3190-319f 31c0-31e5 31ef 3220-3247 3280-32b0 32c0-32cb 32ff 3358-3370 337b-337f
33e0-33fe a700-a707 fe45-fe46 ff61-ff65 1d360-1d371 1f250-1f251"),
    ("hano",
      "1735-1736"),
    ("hebr",
      "307-308"),
    ("hira",
      "3001-3003 3008-3011 3013-301f 3030-3035 3037 303c-303d 3099-309c 30a0 30fb-30fc
fe45-fe46 ff61-ff65 ff70 ff9e-ff9f"),
    ("hung",
      "205a 205d 2e31 2e41"),
    ("java",
      "a9cf"),
    ("kali",
      "a92e"),
    ("kana",
      "305 323 3001-3003 3008-3011 3013-301f 3030-3035 3037 303c-303d 3099-309c 30a0 30fb-30fc
fe45-fe46 ff61-ff65 ff70 ff9e-ff9f"),
    ("khoj",
      "ae6-aef a830-a839"),
    ("knda",
      "951-952 964-965 1cd0 1cd2-1cd3 1cda 1cf2 1cf4 a830-a835"),
    ("kthi",
      "966-96f 2e31 a830-a839"),
    ("latn",
      "b7 2bc 2c7 2c9-2cb 2cd 2d7 2d9 300-30e 310-311 313 323-325 32d-32e 330-331 358 35e
363-36f 485-486 951-952 10fb 1df8 202f 20f0 2e17 a700-a707 a92e"),
    ("limb",
      "965"),
    ("lina",
      "10107-10133"),
    ("linb",
      "10100-10102 10107-10133 10137-1013f"),
    ("lisu",
      "2bc 2cd 300a-300b"),
    ("lyci",
      "205a"),
    ("lydi",
      "b7 2e31"),
    ("mahj",
      "b7 964-96f a830-a839"),
    ("mand",
      "640"),
    ("mani",
      "640"),
    ("mero",
      "205d"),
    ("mlym",
      "951-952 964-965 1cda 1cf2 a830-a832"),
    ("modi",
      "a830-a839"),
    ("mong",
      "1802-1803 1805 202f 3001-3002 3008-300b"),
    ("mult",
      "a66-a6f"),
    ("mymr",
      "a92e"),
    ("nand",
      "951 964-965 ce6-cef 1ce9 1cf2 1cfa a830-a835"),
    ("newa",
      "951-952 1cd5 1cd7-1cd8 1ce2 1ce9 1ceb 1ced"),
    ("nkoo",
      "60c 61b 61f fd3e-fd3f"),
    ("orkh",
      "205a 2e30"),
    ("orya",
      "951-952 964-965 1cda 1cf2"),
    ("osge",
      "301 304 30b 358"),
    ("ougr",
      "640 10af2"),
    ("perm",
      "b7 300 306-308 313 483"),
    ("phag",
      "1802-1803 1805 202f 3002"),
    ("phlp",
      "640"),
    ("rohg",
      "60c 61b 61f 640 6d4"),
    ("runr",
      "16eb-16ed"),
    ("samr",
      "2e31"),
    ("shaw",
      "b7"),
    ("shrd",
      "951 1cd7 1cd9 1cdc-1cdd 1ce0 1cea 1ced a830-a835 a838"),
    ("sind",
      "964-965 a830-a839"),
    ("sinh",
      "964-965 1cf2"),
    ("sogd",
      "640"),
    ("sylo",
      "964-965 9e6-9ef"),
    ("syrc",
      "303-304 307-308 30a 323-325 32d-32e 330-331 60c 61b-61c 61f 640 64b-655 670 1df8 1dfa"),
    ("tagb",
      "1735-1736"),
    ("takr",
      "964-965 a830-a839"),
    ("tale",
      "300-301 307-308 30c 1040-1049"),
    ("taml",
      "951-952 964-965 1cda a8f3 11301 11303 1133b-1133c"),
    ("tang",
      "2ff0-2fff 31ef"),
    ("telu",
      "951-952 964-965 1cd5-1cd6 1cd8 1cda 1cf2"),
    ("tfng",
      "302 304 306-309 323"),
    ("tglg",
      "1735-1736"),
    ("thaa",
      "60c 61b-61c 61f 660-669 fdf2 fdfd"),
    ("thai",
      "2bc 2d7 303 331"),
    ("tibt",
      "3008-300b"),
    ("tirh",
      "951-952 964-965 1cd5 1ce2 1cf2 a830-a839"),
    ("toto",
      "2bc"),
    ("yezi",
      "60c 61b 61f 660-669"),
    ("yiii",
      "3001-3002 3008-3011 3014-301b 30fb ff61-ff65")]

/-- All characters that scripts share. -/
def allShared : Ranges := Ranges.canonical (shared.flatMap fun s => Ranges.ofText s.2)

/-- The code points of the extension of a script by its folded name. -/
def extension? (folded : String) : Option Ranges := do
  let (short, _, own) ← all.find? fun s => s.1 == folded || s.2.1 == folded
  let own := Ranges.ofText own
  if short == "zyyy" || short == "zinh" then some (own.difference allShared)
  else some (own ++ ((shared.lookup short).map Ranges.ofText).getD [])

end StateExpr.Script
