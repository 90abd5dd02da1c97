set_option autoImplicit false

namespace MessagePattern.CommandLine

inductive Flag
  | color
  | verbose
  | locale
  | timeZone
  | maxDepth
  | param
  | arg
  | json
  | compact
  | render
  | html
deriving DecidableEq, Repr

namespace Flag

def long : Flag -> String
  | .color => "color"
  | .verbose => "verbose"
  | .locale => "locale"
  | .timeZone => "time-zone"
  | .maxDepth => "max-depth"
  | .param => "param"
  | .arg => "arg"
  | .json => "json"
  | .compact => "compact"
  | .render => "render"
  | .html => "html"

def short? : Flag -> Option Char
  | .verbose => some 'v'
  | .param => some 'p'
  | .arg => some 'a'
  | _ => none

def takesValue : Flag -> Bool
  | .color | .locale | .timeZone | .maxDepth | .param | .arg => true
  | .verbose | .json | .compact | .render | .html => false

def repeats : Flag -> Bool
  | .param | .arg => true
  | _ => false

def shared : List Flag := [.color, .verbose]

def settings : List Flag := [.locale, .timeZone, .maxDepth]

end Flag

inductive CommandName
  | format
  | parse
  | compile
  | operands
deriving DecidableEq, Repr

namespace CommandName

def all : List CommandName := [.format, .parse, .compile, .operands]

def spelling : CommandName -> String
  | .format => "format"
  | .parse => "parse"
  | .compile => "compile"
  | .operands => "operands"

def ofSpelling? (word : String) : Option CommandName :=
  all.find? fun name => name.spelling == word

def flags (name : CommandName) : List Flag :=
  Flag.shared ++ Flag.settings ++
    match name with
    | .format => [.param, .arg, .json]
    | .parse => [.compact]
    | .compile => [.param, .arg, .render, .html]
    | .operands => [.json]

def takesNumbers : CommandName -> Bool
  | .operands => true
  | _ => false

end CommandName

end MessagePattern.CommandLine
