import MessagePattern.Plural.Provider

set_option autoImplicit false

namespace MessagePattern

namespace PluralRules

open RuleOperand

-- Not every language that has rules is here. One that is left out has `other` alone.
def cardinal (language : String) : PluralRules :=
  match language with
  | "en" | "sv" | "de" =>
    { rules := [
      (.one, [[among .i [(1, 1)], among .v [(0, 0)]]])] }
  | "fr" | "pt" =>
    { rules := [
      (.one, [[among .i [(0, 1)]]]),
      (.many, [
        [among .e [(0, 0)], outside .i [(0, 0)], modAmong .i 1000000 [(0, 0)], among .v [(0, 0)]],
        [outside .e [(0, 5)]]])] }
  | "ru" | "uk" =>
    { rules := [
      (.one, [[among .v [(0, 0)], modAmong .i 10 [(1, 1)], modOutside .i 100 [(11, 11)]]]),
      (.few, [[among .v [(0, 0)], modAmong .i 10 [(2, 4)], modOutside .i 100 [(12, 14)]]]),
      (.many, [
        [among .v [(0, 0)], modAmong .i 10 [(0, 0)]],
        [among .v [(0, 0)], modAmong .i 10 [(5, 9)]],
        [among .v [(0, 0)], modAmong .i 100 [(11, 14)]]])] }
  | "ar" =>
    { rules := [
      (.zero, [[among .n [(0, 0)]]]),
      (.one, [[among .n [(1, 1)]]]),
      (.two, [[among .n [(2, 2)]]]),
      (.few, [[modAmong .n 100 [(3, 10)]]]),
      (.many, [[modAmong .n 100 [(11, 99)]]])] }
  | "pl" =>
    { rules := [
      (.one, [[among .i [(1, 1)], among .v [(0, 0)]]]),
      (.few, [[among .v [(0, 0)], modAmong .i 10 [(2, 4)], modOutside .i 100 [(12, 14)]]]),
      (.many, [
        [among .v [(0, 0)], outside .i [(1, 1)], modAmong .i 10 [(0, 1)]],
        [among .v [(0, 0)], modAmong .i 10 [(5, 9)]],
        [among .v [(0, 0)], modAmong .i 100 [(12, 14)]]])] }
  | "lv" =>
    { rules := [
      (.zero, [
        [modAmong .n 10 [(0, 0)]],
        [modAmong .n 100 [(11, 19)]],
        [among .v [(2, 2)], modAmong .f 100 [(11, 19)]]]),
      (.one, [
        [modAmong .n 10 [(1, 1)], modOutside .n 100 [(11, 11)]],
        [among .v [(2, 2)], modAmong .f 10 [(1, 1)], modOutside .f 100 [(11, 11)]],
        [outside .v [(2, 2)], modAmong .f 10 [(1, 1)]]])] }
  | "lt" =>
    { rules := [
      (.one, [[modAmong .n 10 [(1, 1)], modOutside .n 100 [(11, 19)]]]),
      (.few, [[modAmong .n 10 [(2, 9)], modOutside .n 100 [(11, 19)]]]),
      (.many, [[outside .f [(0, 0)]]])] }
  | "cs" =>
    { rules := [
      (.one, [[among .i [(1, 1)], among .v [(0, 0)]]]),
      (.few, [[among .i [(2, 4)], among .v [(0, 0)]]]),
      (.many, [[outside .v [(0, 0)]]])] }
  | "sl" =>
    { rules := [
      (.one, [[among .v [(0, 0)], modAmong .i 100 [(1, 1)]]]),
      (.two, [[among .v [(0, 0)], modAmong .i 100 [(2, 2)]]]),
      (.few, [[among .v [(0, 0)], modAmong .i 100 [(3, 4)]], [outside .v [(0, 0)]]])] }
  | "cy" =>
    { rules := [
      (.zero, [[among .n [(0, 0)]]]),
      (.one, [[among .n [(1, 1)]]]),
      (.two, [[among .n [(2, 2)]]]),
      (.few, [[among .n [(3, 3)]]]),
      (.many, [[among .n [(6, 6)]]])] }
  | "ga" =>
    { rules := [
      (.one, [[among .n [(1, 1)]]]),
      (.two, [[among .n [(2, 2)]]]),
      (.few, [[among .n [(3, 6)]]]),
      (.many, [[among .n [(7, 10)]]])] }
  | "he" =>
    { rules := [
      (.one, [[among .i [(1, 1)], among .v [(0, 0)]], [among .i [(0, 0)], outside .v [(0, 0)]]]),
      (.two, [[among .i [(2, 2)], among .v [(0, 0)]]])] }
  | "mk" =>
    { rules := [
      (.one, [
        [among .v [(0, 0)], modAmong .i 10 [(1, 1)], modOutside .i 100 [(11, 11)]],
        [modAmong .f 10 [(1, 1)], modOutside .f 100 [(11, 11)]]])] }
  | "it" | "ca" =>
    { rules := [
      (.one, [[among .i [(1, 1)], among .v [(0, 0)]]]),
      (.many, [
        [among .e [(0, 0)], outside .i [(0, 0)], modAmong .i 1000000 [(0, 0)], among .v [(0, 0)]],
        [outside .e [(0, 5)]]])] }
  | "es" =>
    { rules := [
      (.one, [[among .n [(1, 1)]]]),
      (.many, [
        [among .e [(0, 0)], outside .i [(0, 0)], modAmong .i 1000000 [(0, 0)], among .v [(0, 0)]],
        [outside .e [(0, 5)]]])] }
  | "da" =>
    { rules := [
      (.one, [[among .n [(1, 1)]], [outside .t [(0, 0)], among .i [(0, 0), (1, 1)]]])] }
  | "ro" =>
    { rules := [
      (.one, [[among .i [(1, 1)], among .v [(0, 0)]]]),
      (.few, [
        [outside .v [(0, 0)]],
        [among .n [(0, 0)]],
        [outside .n [(1, 1)], modAmong .n 100 [(1, 19)]]])] }
  | "is" =>
    { rules := [
      (.one, [
        [among .t [(0, 0)], modAmong .i 10 [(1, 1)], modOutside .i 100 [(11, 11)]],
        [modAmong .t 10 [(1, 1)], modOutside .t 100 [(11, 11)]]])] }
  | "br" =>
    { rules := [
      (.one, [[modAmong .n 10 [(1, 1)], modOutside .n 100 [(11, 11), (71, 71), (91, 91)]]]),
      (.two, [[modAmong .n 10 [(2, 2)], modOutside .n 100 [(12, 12), (72, 72), (92, 92)]]]),
      (.few, [
        [modAmong .n 10 [(3, 4), (9, 9)], modOutside .n 100 [(10, 19), (70, 79), (90, 99)]]]),
      (.many, [[outside .n [(0, 0)], modAmong .n 1000000 [(0, 0)]]])] }
  | "mt" =>
    { rules := [
      (.one, [[among .n [(1, 1)]]]),
      (.two, [[among .n [(2, 2)]]]),
      (.few, [[among .n [(0, 0)]], [modAmong .n 100 [(3, 10)]]]),
      (.many, [[modAmong .n 100 [(11, 19)]]])] }
  | "hi" =>
    { rules := [
      (.one, [[among .i [(0, 0)]], [among .n [(1, 1)]]])] }
  | "hy" =>
    { rules := [
      (.one, [[among .i [(0, 0), (1, 1)]]])] }
  | "az" | "hu" | "ka" =>
    { rules := [
      (.one, [[among .n [(1, 1)]]])] }
  | "be" =>
    { rules := [
      (.one, [[modAmong .n 10 [(1, 1)], modOutside .n 100 [(11, 11)]]]),
      (.few, [[modAmong .n 10 [(2, 4)], modOutside .n 100 [(12, 14)]]]),
      (.many, [
        [modAmong .n 10 [(0, 0)]],
        [modAmong .n 10 [(5, 9)]],
        [modAmong .n 100 [(11, 14)]]])] }
  | _ => .none

def europeanPortuguese : PluralRules :=
  { rules := [
      (.one, [[among .i [(1, 1)], among .v [(0, 0)]]]),
      (.many, [
        [among .e [(0, 0)], outside .i [(0, 0)], modAmong .i 1000000 [(0, 0)], among .v [(0, 0)]],
        [outside .e [(0, 5)]]])] }

def ordinal (language : String) : PluralRules :=
  match language with
  | "en" =>
    { rules := [
      (.one, [[modAmong .n 10 [(1, 1)], modOutside .n 100 [(11, 11)]]]),
      (.two, [[modAmong .n 10 [(2, 2)], modOutside .n 100 [(12, 12)]]]),
      (.few, [[modAmong .n 10 [(3, 3)], modOutside .n 100 [(13, 13)]]])] }
  | "fr" | "ga" | "ro" | "hy" =>
    { rules := [
      (.one, [[among .n [(1, 1)]]])] }
  | "cy" =>
    { rules := [
      (.zero, [[among .n [(0, 0), (7, 7), (8, 8), (9, 9)]]]),
      (.one, [[among .n [(1, 1)]]]),
      (.two, [[among .n [(2, 2)]]]),
      (.few, [[among .n [(3, 3), (4, 4)]]]),
      (.many, [[among .n [(5, 5), (6, 6)]]])] }
  | "mk" =>
    { rules := [
      (.one, [[modAmong .i 10 [(1, 1)], modOutside .i 100 [(11, 11)]]]),
      (.two, [[modAmong .i 10 [(2, 2)], modOutside .i 100 [(12, 12)]]]),
      (.many, [[modAmong .i 10 [(7, 7), (8, 8)], modOutside .i 100 [(17, 17), (18, 18)]]])] }
  | "it" =>
    { rules := [
      (.many, [[among .n [(11, 11), (8, 8), (80, 80), (800, 800)]]])] }
  | "es" =>
    { rules := [
      (.one, [[modAmong .n 10 [(1, 1), (3, 3)], modOutside .n 100 [(11, 11)]]])] }
  | "sv" =>
    { rules := [
      (.one, [[modAmong .n 10 [(1, 1), (2, 2)], modOutside .n 100 [(11, 11), (12, 12)]]])] }
  | "uk" =>
    { rules := [
      (.few, [[modAmong .n 10 [(3, 3)], modOutside .n 100 [(13, 13)]]])] }
  | "hi" =>
    { rules := [
      (.one, [[among .n [(1, 1)]]]),
      (.two, [[among .n [(2, 2), (3, 3)]]]),
      (.few, [[among .n [(4, 4)]]]),
      (.many, [[among .n [(6, 6)]]])] }
  | "ca" =>
    { rules := [
      (.one, [[among .n [(1, 1), (3, 3)]]]),
      (.two, [[among .n [(2, 2)]]]),
      (.few, [[among .n [(4, 4)]]])] }
  | "az" =>
    { rules := [
      (.one, [
        [modAmong .i 10 [(1, 1), (2, 2), (5, 5), (7, 7), (8, 8)]],
        [modAmong .i 100 [(20, 20), (50, 50), (70, 70), (80, 80)]]]),
      (.few, [
        [modAmong .i 10 [(3, 3), (4, 4)]],
        [modAmong .i 1000 [(100, 100), (200, 200), (300, 300), (400, 400), (500, 500), (600,
          600), (700, 700), (800, 800), (900, 900)]]]),
      (.many, [
        [among .i [(0, 0)]],
        [modAmong .i 10 [(6, 6)]],
        [modAmong .i 100 [(40, 40), (60, 60), (90, 90)]]])] }
  | "be" =>
    { rules := [
      (.few, [[modAmong .n 10 [(2, 2), (3, 3)], modOutside .n 100 [(12, 12), (13, 13)]]])] }
  | "hu" =>
    { rules := [
      (.one, [[among .n [(1, 1), (5, 5)]]])] }
  | "ka" =>
    { rules := [
      (.one, [[among .i [(1, 1)]]]),
      (.many, [[among .i [(0, 0)]], [modAmong .i 100 [(2, 20), (40, 40), (60, 60), (80, 80)]]])] }
  | _ => .none

-- The rules of a locale. Angola counts as Portugal does.
def ofLocale (locale : Locale) (kind : PluralKind) : PluralRules :=
  match kind with
  | .ordinal => ordinal locale.language
  | .cardinal =>
      if locale.language = "pt" && (locale.region = some "PT" || locale.region = some "AO") then
        europeanPortuguese
      else
        cardinal locale.language

end PluralRules

def standardRules : RuleSource := fun locale kind => .ok (PluralRules.ofLocale locale kind)

def standardProvider : PluralProvider := standardRules.provider

end MessagePattern
