import FleetGate.Text.Blank

/-!
# Callers

A tool call arrives on behalf of a caller, who may have sent an `Authorization`
value and may have named a user agent.  The caller's token is what follows
`Bearer ` in that value, without the blanks around it.  A token that is empty
counts as none.
-/

namespace FleetGate

/-- What is known of the caller of a request. -/
structure Caller where
  /-- The `Authorization` value as it was sent. -/
  authorization : Option String
  /-- The user agent of the caller. -/
  userAgent : Option String
deriving DecidableEq, Repr, Inhabited

namespace Caller

/-- What stands before the token in an `Authorization` value. -/
def scheme : String := "Bearer "

/-- A caller who sends a token. -/
def withToken (token : String) (userAgent : Option String) : Caller :=
  ⟨some (scheme ++ token), userAgent⟩

/-- What follows the scheme in an `Authorization` value. -/
def credentials? : List Char → List Char → Option (List Char)
  | [], value => some value
  | c :: cs, d :: value => if c = d then credentials? cs value else none
  | _ :: _, [] => none

/-- The token of a caller. -/
def token? (c : Caller) : Option String :=
  match c.authorization with
  | none => none
  | some value =>
      match credentials? scheme.toList value.toList with
      | none => none
      | some rest =>
          let token := Text.trimChars rest
          if token.isEmpty then none else some (String.ofList token)

end Caller

end FleetGate
