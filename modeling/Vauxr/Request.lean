import Vauxr.Store

/-!
What the request handlers of the three protocols share: the check of a request body, the
lookup of its fields, and the resolver that names the principal of a request.
-/

namespace Vauxr

open Lib

/-- The resolver runs under the transaction, on the snapshot the operation sees. -/
abbrev Resolve := Snapshot → Option Principal

namespace Request

/-- The fields of a body whose keys are exactly the given ones. -/
def fields (body : Json) (names : List String) : Except Error (Dict String Json) :=
  demand (body.obj?.filter (Json.hasKeys · names)) (.enrollment "invalid_request")

/-- A field that is there. -/
def get (d : Dict String Json) (name : String) : Json := (d.get? name).getD .null

def hexField (j : Json) (length : ℕ) : Option String := j.str?.filter (hexString · length)

/-- A field that must be a hex string. -/
def requireHex (j : Json) (length : ℕ) : Except Error String :=
  demand (hexField j length) (.enrollment "invalid_request")

lemma hexField_eq_some {j : Json} {n : ℕ} {s : String} (h : hexField j n = some s) :
    hexString s n = true := by
  simp only [hexField, Option.filter_eq_some_iff] at h
  exact h.2

end Request

/-- A new record; a bad identifier, subject or verifier is refused as the constructor does. -/
def Credential.create (id : String) (role : Role) (subject verifier : String) (enabled : Bool) :
    Except Error Credential :=
  if h : validCredential id subject verifier = true then
    .ok ⟨id, role, subject, verifier, enabled, h⟩
  else .error (.value "Invalid credential schema")

lemma Credential.create_eq_ok {id subject verifier : String} {role : Role} {enabled : Bool}
    {r : Credential} (h : Credential.create id role subject verifier enabled = .ok r) :
    r.id = id ∧ r.role = role ∧ r.subject = subject ∧ r.verifier = verifier ∧
      r.enabled = enabled := by
  unfold Credential.create at h
  split at h
  · cases h
    exact ⟨rfl, rfl, rfl, rfl, rfl⟩
  · cases h

end Vauxr
