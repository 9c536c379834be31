import FleetGate.Simulation.Server

/-!
# Descriptions of servers

A simulated server is described by a value with the tables that it answers from.  What
the value does not have stays empty.
-/

namespace FleetGate.Simulation

/-- The items of a field. -/
def itemsAt (key : String) (j : Json) : List Json := ((j.field? key).bind Json.items?).getD []

/-- The fields of a field. -/
def fieldsAt (key : String) (j : Json) : Fields Json :=
  ((j.field? key).bind Json.fields?).getD []

/-- The text of a body: a text stands for itself, and anything else is written out. -/
def bodyOf : Json → String
  | .str s => s
  | j => j.render

/-- The status code in a description. -/
def codeAt (key : String) (default : Nat) (j : Json) : Nat :=
  (((j.field? key).bind Json.int?).map Int.toNat).getD default

/-- A reply from its description. -/
def replyOf (j : Json) : HttpReply :=
  .ofText (codeAt "status" 200 j) (((j.field? "body").map bodyOf).getD "")

/-- A resource from its row. -/
def servedOf (row : Json) : Served :=
  let cells := row.items?.getD []
  let text (i : Nat) : String := (cells[i]?.bind Json.str?).getD ""
  ⟨⟨text 0, text 1, text 3⟩, text 2, (cells[4]?.bind Json.bool?).getD false⟩

/-- A rule for reviews of access from its description. -/
def reviewRuleOf (j : Json) : ReviewRule where
  conditions := fieldsAt "match" j
  code := codeAt "status" 201 j
  allowed? := j.present? "allowed"
  body? := (j.field? "body").map bodyOf

/-- A server from its description. -/
def serverOf (j : Json) : Server where
  served := (itemsAt "resources" j).map servedOf
  objects := (fieldsAt "objects" j).map fun (path, object) => (path, bodyOf object)
  replies := (fieldsAt "responses" j).map fun (key, reply) => (key, replyOf reply)
  reviews := (itemsAt "reviews" j).map reviewRuleOf
  tokens := (fieldsAt "tokens" j).map fun (token, status) =>
    (token, if status.isNull then none else some status)
  definitions? := (j.present? "openapi").map bodyOf

end FleetGate.Simulation
