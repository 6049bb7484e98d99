/-
# Plural rules of languages

The plural rules of the languages that there is data for. Portuguese has another rule in
Portugal than elsewhere. Languages that are not listed have one form for all numbers.
-/

import Phrasebook.Cldr.Known
import Phrasebook.Cldr.PluralRule

namespace Phrasebook
namespace Cldr
namespace PluralRule

open PluralOperand in
/-- The rules, each with the languages that it is for. -/
def ofLanguages : List (List String × PluralRule) := [
    (["ar"],
      [(.zero, [[n.isIn [0]]]),
       (.one, [[n.isIn [1]]]),
       (.two, [[n.isIn [2]]]),
       (.few, [[n.modIn 100 [⟨3, 10⟩]]]),
       (.many, [[n.modIn 100 [⟨11, 99⟩]]])]),
    (["be"],
      [(.one, [[n.modIn 10 [1], n.modNotIn 100 [11]]]),
       (.few, [[n.modIn 10 [⟨2, 4⟩], n.modNotIn 100 [⟨12, 14⟩]]]),
       (.many, [[n.modIn 10 [0]], [n.modIn 10 [⟨5, 9⟩]], [n.modIn 100 [⟨11, 14⟩]]])]),
    (["br"],
      [(.one, [[n.modIn 10 [1], n.modNotIn 100 [11, 71, 91]]]),
       (.two, [[n.modIn 10 [2], n.modNotIn 100 [12, 72, 92]]]),
       (.few, [[n.modIn 10 [⟨3, 4⟩, 9], n.modNotIn 100 [⟨10, 19⟩, ⟨70, 79⟩, ⟨90, 99⟩]]]),
       (.many, [[n.isNotIn [0], n.modIn 1000000 [0]]])]),
    (["cs"],
      [(.one, [[i.isIn [1], v.isIn [0]]]),
       (.few, [[i.isIn [⟨2, 4⟩], v.isIn [0]]]),
       (.many, [[v.isNotIn [0]]])]),
    (["cy"],
      [(.zero, [[n.isIn [0]]]),
       (.one, [[n.isIn [1]]]),
       (.two, [[n.isIn [2]]]),
       (.few, [[n.isIn [3]]]),
       (.many, [[n.isIn [6]]])]),
    (["da"],
      [(.one, [[n.isIn [1]], [t.isNotIn [0], i.isIn [0, 1]]])]),
    (["de", "en"],
      [(.one, [[i.isIn [1], v.isIn [0]]])]),
    (["dsb"],
      [(.one, [[v.isIn [0], i.modIn 100 [1]], [f.modIn 100 [1]]]),
       (.two, [[v.isIn [0], i.modIn 100 [2]], [f.modIn 100 [2]]]),
       (.few, [[v.isIn [0], i.modIn 100 [⟨3, 4⟩]], [f.modIn 100 [⟨3, 4⟩]]])]),
    (["es"],
      [(.one, [[n.isIn [1]]]),
       (.many, [[e.isIn [0], i.isNotIn [0], i.modIn 1000000 [0], v.isIn [0]],
          [e.isNotIn [⟨0, 5⟩]]])]),
    (["fil"],
      [(.one, [[v.isIn [0], i.isIn [1, 2, 3]], [v.isIn [0], i.modNotIn 10 [4, 6, 9]],
          [v.isNotIn [0], f.modNotIn 10 [4, 6, 9]]])]),
    (["fr"],
      [(.one, [[i.isIn [0, 1]]]),
       (.many, [[e.isIn [0], i.isNotIn [0], i.modIn 1000000 [0], v.isIn [0]],
          [e.isNotIn [⟨0, 5⟩]]])]),
    (["ga"],
      [(.one, [[n.isIn [1]]]),
       (.two, [[n.isIn [2]]]),
       (.few, [[n.isIn [⟨3, 6⟩]]]),
       (.many, [[n.isIn [⟨7, 10⟩]]])]),
    (["gd"],
      [(.one, [[n.isIn [1, 11]]]),
       (.two, [[n.isIn [2, 12]]]),
       (.few, [[n.isIn [⟨3, 10⟩, ⟨13, 19⟩]]])]),
    (["he"],
      [(.one, [[i.isIn [1], v.isIn [0]], [i.isIn [0], v.isNotIn [0]]]),
       (.two, [[i.isIn [2], v.isIn [0]]])]),
    (["hi"],
      [(.one, [[i.isIn [0]], [n.isIn [1]]])]),
    (["hy"],
      [(.one, [[i.isIn [0, 1]]])]),
    (["is"],
      [(.one, [[t.isIn [0], i.modIn 10 [1], i.modNotIn 100 [11]], [t.modIn 10 [1],
          t.modNotIn 100 [11]]])]),
    (["it", "pt_PT"],
      [(.one, [[i.isIn [1], v.isIn [0]]]),
       (.many, [[e.isIn [0], i.isNotIn [0], i.modIn 1000000 [0], v.isIn [0]],
          [e.isNotIn [⟨0, 5⟩]]])]),
    (["kw"],
      [(.zero, [[n.isIn [0]]]),
       (.one, [[n.isIn [1]]]),
       (.two, [[n.modIn 100 [2, 22, 42, 62, 82]], [n.modIn 1000 [0],
          n.modIn 100000 [⟨1000, 20000⟩, 40000, 60000, 80000]], [n.isNotIn [0],
          n.modIn 1000000 [100000]]]),
       (.few, [[n.modIn 100 [3, 23, 43, 63, 83]]]),
       (.many, [[n.isNotIn [1], n.modIn 100 [1, 21, 41, 61, 81]]])]),
    (["lag"],
      [(.zero, [[n.isIn [0]]]),
       (.one, [[i.isIn [0, 1], n.isNotIn [0]]])]),
    (["lt"],
      [(.one, [[n.modIn 10 [1], n.modNotIn 100 [⟨11, 19⟩]]]),
       (.few, [[n.modIn 10 [⟨2, 9⟩], n.modNotIn 100 [⟨11, 19⟩]]]),
       (.many, [[f.isNotIn [0]]])]),
    (["lv"],
      [(.zero, [[n.modIn 10 [0]], [n.modIn 100 [⟨11, 19⟩]], [v.isIn [2], f.modIn 100 [⟨11, 19⟩]]]),
       (.one, [[n.modIn 10 [1], n.modNotIn 100 [11]], [v.isIn [2], f.modIn 10 [1],
          f.modNotIn 100 [11]], [v.isNotIn [2], f.modIn 10 [1]]])]),
    (["mk"],
      [(.one, [[v.isIn [0], i.modIn 10 [1], i.modNotIn 100 [11]], [f.modIn 10 [1],
          f.modNotIn 100 [11]]])]),
    (["mt"],
      [(.one, [[n.isIn [1]]]),
       (.two, [[n.isIn [2]]]),
       (.few, [[n.isIn [0]], [n.modIn 100 [⟨3, 10⟩]]]),
       (.many, [[n.modIn 100 [⟨11, 19⟩]]])]),
    (["nb", "no"],
      [(.one, [[n.isIn [1]]])]),
    (["pl"],
      [(.one, [[i.isIn [1], v.isIn [0]]]),
       (.few, [[v.isIn [0], i.modIn 10 [⟨2, 4⟩], i.modNotIn 100 [⟨12, 14⟩]]]),
       (.many, [[v.isIn [0], i.isNotIn [1], i.modIn 10 [⟨0, 1⟩]], [v.isIn [0], i.modIn 10 [⟨5, 9⟩]],
          [v.isIn [0], i.modIn 100 [⟨12, 14⟩]]])]),
    (["pt"],
      [(.one, [[i.isIn [⟨0, 1⟩]]]),
       (.many, [[e.isIn [0], i.isNotIn [0], i.modIn 1000000 [0], v.isIn [0]],
          [e.isNotIn [⟨0, 5⟩]]])]),
    (["ro"],
      [(.one, [[i.isIn [1], v.isIn [0]]]),
       (.few, [[v.isNotIn [0]], [n.isIn [0]], [n.isNotIn [1], n.modIn 100 [⟨1, 19⟩]]])]),
    (["ru", "uk"],
      [(.one, [[v.isIn [0], i.modIn 10 [1], i.modNotIn 100 [11]]]),
       (.few, [[v.isIn [0], i.modIn 10 [⟨2, 4⟩], i.modNotIn 100 [⟨12, 14⟩]]]),
       (.many, [[v.isIn [0], i.modIn 10 [0]], [v.isIn [0], i.modIn 10 [⟨5, 9⟩]], [v.isIn [0],
          i.modIn 100 [⟨11, 14⟩]]])]),
    (["shi"],
      [(.one, [[i.isIn [0]], [n.isIn [1]]]),
       (.few, [[n.isIn [⟨2, 10⟩]]])]),
    (["si"],
      [(.one, [[n.isIn [0, 1]], [i.isIn [0], f.isIn [1]]])]),
    (["sl"],
      [(.one, [[v.isIn [0], i.modIn 100 [1]]]),
       (.two, [[v.isIn [0], i.modIn 100 [2]]]),
       (.few, [[v.isIn [0], i.modIn 100 [⟨3, 4⟩]], [v.isNotIn [0]]])]),
    (["sr"],
      [(.one, [[v.isIn [0], i.modIn 10 [1], i.modNotIn 100 [11]], [f.modIn 10 [1],
          f.modNotIn 100 [11]]]),
       (.few, [[v.isIn [0], i.modIn 10 [⟨2, 4⟩], i.modNotIn 100 [⟨12, 14⟩]], [f.modIn 10 [⟨2, 4⟩],
          f.modNotIn 100 [⟨12, 14⟩]]])]),
    (["tzm"],
      [(.one, [[n.isIn [⟨0, 1⟩]], [n.isIn [⟨11, 99⟩]]])])]

/-- The rule for a language, or a language with its territory. -/
def find? (name : String) : Option PluralRule :=
  (ofLanguages.find? (·.1.contains name)).map Prod.snd

/-- The rule of a locale. -/
def ofLocale (id : LocaleId) : PluralRule :=
  (find? id.coarse.text).getD ((find? id.language).getD [])

end PluralRule
end Cldr
end Phrasebook
