set_option autoImplicit false

namespace MessagePattern

structure Locale where
  language : String
  script : Option String := none
  region : Option String := none
  -- In ascending order, each once.
  variants : List String := []
  -- The subtags from the first one of a single letter on, as they are written.
  extensions : List String := []
deriving DecidableEq, Repr

inductive LocaleError
  | invalidLanguage
  | invalidSubtag
deriving DecidableEq, Repr

def LocaleError.message : LocaleError -> String
  | .invalidLanguage => "The given language subtag is invalid"
  | .invalidSubtag => "Invalid subtag"

namespace Locale

def tag (locale : Locale) : String :=
  "-".intercalate
    (locale.language :: (locale.script.toList ++ locale.region.toList ++ locale.variants ++
      locale.extensions))

end Locale

abbrev LocaleReader := String -> Except LocaleError Locale

-- What is asked of a reader of tags: a locale is read from the tag that it is written as.
def LocaleReader.Rereads (reader : LocaleReader) (locale : Locale) : Prop :=
  reader locale.tag = .ok locale

namespace Locale

def english : Locale := { language := "en" }

def language? (subtag : List Char) : Option String :=
  if 2 <= subtag.length && subtag.length <= 3 && subtag.all Char.isAlpha then
    some (String.ofList (subtag.map Char.toLower))
  else
    none

def script? (subtag : List Char) : Option String :=
  match subtag with
  | first :: rest =>
      if subtag.length = 4 && subtag.all Char.isAlpha then
        some (String.ofList (first.toUpper :: rest.map Char.toLower))
      else
        none
  | [] => none

def region? (subtag : List Char) : Option String :=
  if subtag.length = 2 && subtag.all Char.isAlpha || subtag.length = 3 && subtag.all Char.isDigit then
    some (String.ofList (subtag.map Char.toUpper))
  else
    none

def variant? (subtag : List Char) : Option String :=
  let long := 5 <= subtag.length && subtag.length <= 8
  let dated := subtag.length = 4 && subtag.head?.any Char.isDigit
  if (long || dated) && subtag.all Char.isAlphanum then
    some (String.ofList (subtag.map Char.toLower))
  else
    none

def insertNew? (variant : String) : List String -> Option (List String)
  | [] => some [variant]
  | first :: rest =>
      if variant = first then none
      else if variant < first then some (variant :: first :: rest)
      else (insertNew? variant rest).map (first :: ·)

def readVariants (locale : Locale) : List (List Char) -> Except LocaleError Locale
  | [] => .ok locale
  | subtag :: rest =>
      match (variant? subtag).bind (insertNew? · locale.variants) with
      | some variants => readVariants { locale with variants } rest
      | none => .error .invalidSubtag

def readRegion (locale : Locale) (subtags : List (List Char)) : Except LocaleError Locale :=
  match subtags with
  | [] => .ok locale
  | subtag :: rest =>
      match region? subtag with
      | some region => readVariants { locale with region := some region } rest
      | none => readVariants locale subtags

def readScript (locale : Locale) (subtags : List (List Char)) : Except LocaleError Locale :=
  match subtags with
  | [] => .ok locale
  | subtag :: rest =>
      match script? subtag with
      | some script => readRegion { locale with script := some script } rest
      | none => readRegion locale subtags

-- A reader of the tags that have no extensions.
def parse : LocaleReader := fun tag =>
  match tag.toList.splitOn '-' with
  | [] => .error .invalidLanguage
  | subtag :: rest =>
      match language? subtag with
      | some language => readScript { language } rest
      | none => .error .invalidLanguage

end Locale

end MessagePattern
