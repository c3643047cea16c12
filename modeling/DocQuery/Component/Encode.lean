/-
This file writes components as values, in the form they are read from.

The keys of every map come in a fixed order, the type first. A direction is written as one for
ascending and as minus one for descending.
-/

import DocQuery.Component.Basic
import DocQuery.Json.Printer

namespace DocQuery

def Direction.encode : Direction → Value
  | .ascending => .int 1
  | .descending => .int (-1)

/-- One entry of a collection expression as a value. -/
def Refinement.encode : Refinement → Value
  | .filter field operator value =>
    .map [("type", .text "where"), ("field", field), ("operator", operator), ("value", value)]
  | .limit count => .map [("type", .text "limit"), ("limit", count)]
  | .order field direction =>
    .map [("type", .text "order"), ("field", field), ("direction", direction.encode)]

def Component.encode : Component → Value
  | .literal name => .map [("type", .text "literal"), ("value", .text name)]
  | .all => .map [("type", .text "all")]
  | .collectionExpression refinements =>
    .map [("type", .text "collectionExpression"),
      ("components", .list (refinements.map Refinement.encode))]
  | .documentExpression fields =>
    .map [("type", .text "documentExpression"), ("components", .list (fields.map .text))]

def encodeQuery (components : List Component) : Value := .list (components.map Component.encode)

/-- A query as JSON text of at most so many lists and maps inside each other; a refinement that holds
bytes has none. -/
def encodeQueryJson (levels : Nat) (layout : JsonLayout) (components : List Component) :
    Except Failure String :=
  (encodeQuery components).toJson levels layout

end DocQuery
