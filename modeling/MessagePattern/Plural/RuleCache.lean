import MessagePattern.Plural.Provider

set_option autoImplicit false

namespace MessagePattern

structure RuleCache where
  entries : List ((Locale × PluralKind) × PluralRules)

namespace RuleCache

def empty : RuleCache :=
  { entries := [] }

def get? (cache : RuleCache) (locale : Locale) (kind : PluralKind) : Option PluralRules :=
  cache.entries.lookup (locale, kind)

def add (cache : RuleCache) (locale : Locale) (kind : PluralKind) (rules : PluralRules) :
    RuleCache :=
  { entries := cache.entries ++ [((locale, kind), rules)] }

def classify (source : RuleSource) (cache : RuleCache) (locale : Locale) (kind : PluralKind)
    (operands : Operands) : Except PluralError PluralCategory × RuleCache :=
  match operands.seen with
  | .error error => (.error error, cache)
  | .ok seen =>
      match cache.get? locale kind with
      | some rules => (.ok (rules.classify seen), cache)
      | none =>
          match source locale kind with
          | .error error => (.error error, cache)
          | .ok rules => (.ok (rules.classify seen), cache.add locale kind rules)

def category (source : RuleSource) (cache : RuleCache) (locale : Locale) (kind : PluralKind)
    (value : Value) : Except PluralError PluralCategory × RuleCache :=
  match Operands.ofValue value with
  | .error error => (.error (.operands error), cache)
  | .ok operands => cache.classify source locale kind operands

end RuleCache

end MessagePattern
