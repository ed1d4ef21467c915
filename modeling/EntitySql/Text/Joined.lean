/-!
# Separated pieces

A list of pieces is written with a separator between neighbours. `separated` decides on the
separator by what the previous piece wrote: after an empty piece none is put, so an empty piece
in the middle costs one separator and not two. `joined` always puts it.

## Main definitions

* `joined`: a separator between every two neighbours.
* `separated`: a separator after every piece that wrote something, the last one apart.
-/

namespace EntitySql.Text

/-- The pieces with a separator between every two neighbours. -/
def joined (separator : String) : List String → String
  | [] => ""
  | [piece] => piece
  | piece :: next :: rest => piece ++ separator ++ joined separator (next :: rest)

/-- The pieces that follow one that wrote something or did not. -/
def separatedAfter (separator : String) : (wrote : Bool) → List String → String
  | _, [] => ""
  | wrote, piece :: rest =>
      (if wrote then separator else "") ++ piece ++ separatedAfter separator (piece != "") rest

/-- The pieces with a separator in front of each whose predecessor wrote something. -/
def separated (separator : String) (pieces : List String) : String :=
  separatedAfter separator false pieces

end EntitySql.Text
