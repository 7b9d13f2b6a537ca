set_option autoImplicit false

namespace Floorplan.Text

def splitOn (separator : Char) : List Char → List (List Char)
  | [] => [[]]
  | c :: rest =>
    match splitOn separator rest with
    | [] => [[]]
    | part :: parts => if c = separator then [] :: part :: parts else (c :: part) :: parts

def splitOnce (test : Char → Bool) : List Char → Option (List Char × List Char)
  | [] => none
  | c :: rest =>
    if test c then some ([], rest)
    else (splitOnce test rest).map fun (before, after) => (c :: before, after)

end Floorplan.Text
