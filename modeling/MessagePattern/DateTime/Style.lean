set_option autoImplicit false

namespace MessagePattern

inductive DateTimeStyle
  | short
  | medium
  | long
  | full
deriving DecidableEq, Repr

namespace DateTimeStyle

def all : List DateTimeStyle := [.short, .medium, .long, .full]

def keyword : DateTimeStyle -> String
  | .short => "short"
  | .medium => "medium"
  | .long => "long"
  | .full => "full"

def ofKeyword? (word : String) : Option DateTimeStyle :=
  all.find? fun style => style.keyword == word

@[simp] theorem ofKeyword?_keyword (style : DateTimeStyle) :
    ofKeyword? style.keyword = some style := by
  cases style <;> rfl

end DateTimeStyle

inductive DateTimeKind
  | date
  | time
  | dateTime
deriving DecidableEq, Repr

namespace DateTimeKind

def keyword : DateTimeKind -> String
  | .date => "date"
  | .time => "time"
  | .dateTime => "datetime"

def dateStyle (kind : DateTimeKind) (style : DateTimeStyle) : Option DateTimeStyle :=
  match kind with
  | .date | .dateTime => some style
  | .time => none

def timeStyle (kind : DateTimeKind) (style : DateTimeStyle) : Option DateTimeStyle :=
  match kind with
  | .time | .dateTime => some style
  | .date => none

end DateTimeKind

end MessagePattern
