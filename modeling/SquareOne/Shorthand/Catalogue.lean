import SquareOne.Shorthand.Table

/-! The shorthands that are known by name. Every sequence starts and ends with a swap. -/

namespace SquareOne.Shorthand

def inLine : Variant := .aligned ⟨false, false⟩

def topOut : Variant := .aligned ⟨true, false⟩

def bottomOut : Variant := .aligned ⟨false, true⟩

def bothOut : Variant := .aligned ⟨true, true⟩

/-- Every known name with the alignments it is known for, and its sequence. -/
def catalogueEntries : List (String × Variant × String) :=
  [
    ("bjj", .free, "/U' e D'/"), ("fjj", .free, "/U e' D/"), ("nn", .free, "/E E'/"),
    ("bpj", topOut, "/d m' U/"), ("bpj", bottomOut, "/u' m D'/"), ("fpj", topOut, "/u m' D/"),
    ("fpj", bottomOut, "/d' m U'/"), ("aa", topOut, "/u m' u T'/"),
    ("aa", bottomOut, "/U m' U t'/"), ("fadj", topOut, "/D M' d'/"),
    ("dadj", topOut, "/D M' d'/"), ("fadj", bottomOut, "/U' M u/"),
    ("u'adj", bottomOut, "/U' M u/"), ("badj", topOut, "/U M u'/"), ("uadj", topOut, "/U M u'/"),
    ("badj", bottomOut, "/D' M d/"), ("d'adj", bottomOut, "/D' M d/"),
    ("bb", topOut, "/T u' e U'/"), ("bb", bottomOut, "/t d e' D/"),
    ("fdd", topOut, "/D e' d t/"), ("fdd", bottomOut, "/U' e u' T/"),
    ("bdd", topOut, "/U e' u T'/"), ("bdd", bottomOut, "/D' e d' t'/"),
    ("ff", topOut, "/d m' d M E/"), ("fv", topOut, "/d4/"), ("fv", bottomOut, "/d4'/"),
    ("vf", topOut, "/u4/"), ("vf", bottomOut, "/u4'/"), ("jf", topOut, "/w D' u T'/"),
    ("jf", bottomOut, "/w' D u' T/"), ("fj", topOut, "/b U' d t/"),
    ("fj", bottomOut, "/b' U d' t'/"), ("jr", inLine, "/e' w e/"), ("jr", topOut, "/e' b e/"),
    ("jr", bottomOut, "/e' w' e/"), ("jr", bothOut, "/e' b' e/"), ("rj", inLine, "/e b' e'/"),
    ("rj", topOut, "/e w e'/"), ("rj", bottomOut, "/e b' e'/"), ("rj", bothOut, "/e w e'/"),
    ("jv", topOut, "/b D d d2'/"), ("jv", bottomOut, "/b' D' d' d2/"),
    ("vj", topOut, "/w U u u2'/"), ("vj", bottomOut, "/w' U' u' u2/"),
    ("kk", topOut, "/u m' U E'/"), ("kk", bottomOut, "/U m' u E'/"), ("opp", topOut, "/u2 u2'/"),
    ("opp", bottomOut, "/u2' u2/"), ("pn", topOut, "/T T'/"), ("pn", bottomOut, "/t t'/"),
    ("px", topOut, "/f' d3' f'/"), ("px", bottomOut, "/f d3 f/"), ("xp", topOut, "/F' u3' F'/"),
    ("xp", bottomOut, "/F u3 F/"), ("tt", topOut, "/d m' F' u2'/"),
    ("fss", topOut, "/u M D' E'/"), ("fss", bottomOut, "/D' M u E'/"),
    ("bss", topOut, "/D M' u' E/"), ("bss", bottomOut, "/U' M d E/"),
    ("vv", topOut, "/u M u m' E'/"), ("zz", topOut, "/u M t' M D'/"),
    ("zz", bottomOut, "/D' M t' M u/")
  ]

def catalogue : Table where
  entries := Dictionary.ofList <| catalogueEntries.map fun (name, variant, fragment) =>
    ((name.toList, variant), fragment.toList)

end SquareOne.Shorthand
