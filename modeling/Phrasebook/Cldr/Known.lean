/-
# Known locales

A locale is known if there is data for its identifier, with or without the modifier.
Other identifiers may still mean a known locale: a language that has been renamed has its
new name, an unknown territory or script counts as none, and a language or a language
with its territory has likely other parts, of which the script can be left out again.
-/

import Phrasebook.Cldr.Identifier

namespace Phrasebook
namespace Cldr
namespace LocaleId

/-- The identifiers that there is data for. -/
def knownTexts : List String :=
  ["ar", "be", "br", "cs", "cy", "da", "de", "de_AT", "de_CH", "de_DE", "dsb", "en", "en_001",
    "en_GB", "en_US", "en_US_POSIX", "es", "es_419", "fil", "fr", "ga", "gd", "he", "he_IL", "hi",
    "hy", "id", "id_ID", "is", "it", "ja", "ko", "kw", "lag", "lt", "lv", "lv_LV", "mk", "mt",
    "nb", "no", "pl", "pl_PL", "pt", "pt_BR", "pt_PT", "ro", "ru", "shi", "si", "sl", "sr",
    "sr_Latn", "sr_Latn_RS", "tzm", "uk", "zh", "zh_Hans_CN", "zh_Hant", "zh_Hant_TW"]

/-- The languages that have been renamed. -/
def renamed : List (String × String) := [("in", "id"), ("iw", "he")]

/-- The parts that an identifier is likely to stand for. -/
def likelyParts : List (String × String) :=
  [("und", "en_Latn_US"), ("und_AT", "de_Latn_AT"), ("zh_TW", "zh_Hant_TW"),
    ("ar", "ar_Arab_EG"), ("be", "be_Cyrl_BY"), ("br", "br_Latn_FR"), ("cs", "cs_Latn_CZ"),
    ("cy", "cy_Latn_GB"), ("da", "da_Latn_DK"), ("de", "de_Latn_DE"), ("dsb", "dsb_Latn_DE"),
    ("en", "en_Latn_US"), ("es", "es_Latn_ES"), ("fil", "fil_Latn_PH"), ("fr", "fr_Latn_FR"),
    ("ga", "ga_Latn_IE"), ("gd", "gd_Latn_GB"), ("he", "he_Hebr_IL"), ("hi", "hi_Deva_IN"),
    ("hy", "hy_Armn_AM"), ("id", "id_Latn_ID"), ("is", "is_Latn_IS"), ("it", "it_Latn_IT"),
    ("ja", "ja_Jpan_JP"), ("ko", "ko_Kore_KR"), ("kw", "kw_Latn_GB"), ("lag", "lag_Latn_TZ"),
    ("lt", "lt_Latn_LT"), ("lv", "lv_Latn_LV"), ("mk", "mk_Cyrl_MK"), ("mt", "mt_Latn_MT"),
    ("nb", "nb_Latn_NO"), ("no", "no_Latn_NO"), ("pl", "pl_Latn_PL"), ("pt", "pt_Latn_BR"),
    ("ro", "ro_Latn_RO"), ("ru", "ru_Cyrl_RU"), ("shi", "shi_Tfng_MA"), ("si", "si_Sinh_LK"),
    ("sl", "sl_Latn_SI"), ("sr", "sr_Cyrl_RS"), ("tzm", "tzm_Latn_MA"), ("uk", "uk_Cyrl_UA"),
    ("zh", "zh_Hans_CN")]

/-- Whether there is data for a locale. -/
def isKnown (id : LocaleId) : Bool :=
  knownTexts.contains id.text || knownTexts.contains id.plain.text

/-- The parts that a text is likely to stand for. -/
def likely? (text : String) : Option LocaleId :=
  (likelyParts.lookup text).bind fun parts => (read parts).toOption

/-- The language and the territory only. -/
def coarse (id : LocaleId) : LocaleId := { language := id.language, territory := id.territory }

/-- The identifier with a current language, and without a territory or script that is unknown. -/
def current (id : LocaleId) : LocaleId :=
  { id with
    language := (renamed.lookup id.language).getD id.language
    territory := id.territory.filter (· ≠ "ZZ")
    script := id.script.filter (· ≠ "Zzzz") }

/-- The identifiers that a locale may be known by, the best first. -/
def candidates (id : LocaleId) : List LocaleId :=
  let c := id.current
  let whole := (likely? c.text).toList
  let ofLanguage := (likely? c.language).toList.map fun l => { l with territory := c.territory }
  id :: (whole ++ ofLanguage).flatMap fun l => [l, l.coarse]

/-- The known locale that an identifier means. -/
def resolve (id : LocaleId) : Except LocaleFault LocaleId :=
  match id.candidates.find? isKnown with
  | some found => .ok found
  | none => .error (.unknown ("unknown locale " ++ Text.quotedString id.text))

/-- The known locale that a text means. -/
def parse (identifier : String) : Except LocaleFault LocaleId := (read identifier).bind resolve

/-- A territory has its likely script, and a renamed language its new name. -/
example : (parse "zh_tw").toOption.map text = some "zh_Hant_TW" ∧
    (parse "iw").toOption.map text = some "he_IL" ∧ (parse "de_XX").toOption = none := by
  decide +kernel

end LocaleId
end Cldr
end Phrasebook
