set_option autoImplicit false

namespace MessagePattern.CommandLine

def padRight (width : Nat) (text : String) : String :=
  text ++ String.ofList (List.replicate (width - text.length) ' ')

def columnWidths (header : List String) (rows : List (List String)) : List Nat :=
  rows.foldl (fun widths row => List.zipWith max widths (row.map String.length))
    (header.map String.length)

def tableRow (widths : List Nat) (cells : List String) : String :=
  "│ " ++ "   ".intercalate (List.zipWith padRight widths cells) ++ " │\n"

def tableRule (left line right : Char) (widths : List Nat) : String :=
  let width := widths.foldl (fun total width => total + width + 3) 0 - 1
  String.ofList (left :: List.replicate width line ++ [right, '\n'])

def table (header : List String) (rows : List (List String)) : String :=
  let widths := columnWidths header rows
  tableRule '┌' '─' '┐' widths ++ tableRow widths header ++ tableRule '╞' '═' '╡' widths ++
    String.join (rows.map (tableRow widths)) ++ tableRule '└' '─' '┘' widths

end MessagePattern.CommandLine
