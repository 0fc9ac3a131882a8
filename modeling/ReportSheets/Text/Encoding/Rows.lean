namespace ReportSheets.Text.Rows

def blank : Char := '.'

def placesOf (width : Nat) (rows : List (Nat × String)) : Array Char :=
  rows.foldl (fun places (row, characters) =>
    places ++ Array.replicate (row * width - places.size) blank ++ characters.toList.toArray) #[]

def character? (places : Array Char) (place : Nat) : Option Char :=
  places[place]?.filter (· != blank)

end ReportSheets.Text.Rows
