import CubeSlice.Client
import CubeSlice.Proofs.Number.Exact
import CubeSlice.Proofs.Session

/-!
# What clients ask

Every function of a client is an inquiry: which requests it sends is settled before the first reply, and
what it returns follows from the replies.
-/

namespace CubeSlice

def Reply.value? : Reply → Option Json.Value
  | .response status _ body => if Client.isSuccess status then (Json.read body).toOption else none
  | _ => none

def firstValue? (replies : List Reply) : Option Json.Value := replies.head?.bind Reply.value?

def TellsCube (replies : List Reply) (description : Cube.Description) : Prop :=
  ∃ v, firstValue? replies = some v ∧ Cube.descriptionCheck v = .ok description

def TellsTiles (replies : List Reply) (tiles : List Tile) : Prop :=
  ∃ v, firstValue? replies = some v ∧ Payload.parse v = .ok tiles

namespace Client

open Session

theorem isSuccess_iff {status : Number} :
    isSuccess status = true ↔ ∃ q : ℚ, status.value? = some q ∧ 200 ≤ q ∧ q ≤ 299 := by
  have hLeast : (Number.ofNat 200).value? = some (200 : Nat) :=
    Number.value?_natCast_iff.mpr (Number.index?_ofNat (by decide))
  have hMost : (Number.ofNat 299).value? = some (299 : Nat) :=
    Number.value?_natCast_iff.mpr (Number.index?_ofNat (by decide))
  rw [isSuccess, Bool.and_eq_true]
  cases hValue : status.value? with
  | none =>
    refine iff_of_false ?_ (by simp)
    cases status with
    | nan => decide +kernel
    | infinite negative => cases negative <;> decide +kernel
    | finite negative n held => cases hValue
  | some q =>
    rw [Number.le_iff_value? hLeast hValue, Number.le_iff_value? hValue hMost]
    simp

variable (c : Client)

def describeRequest (guid : String) : Request := ⟨"GET", Url.join c.baseUrl [guid], c.headers⟩

def sliceRequest (guid : String) (dim lineno : Number) : Request :=
  ⟨"GET", Url.join c.baseUrl [guid, "slice", dim.text, lineno.text], c.headers⟩

theorem firstValue?_of_response {replies : List Reply} {status : Number} {statusText body : String}
    {v : Json.Value} (hReply : replies.head? = some (.response status statusText body))
    (hStatus : isSuccess status = true) (hBody : Json.read body = .ok v) : firstValue? replies = some v := by
  rw [firstValue?, hReply, Option.bind_some, Reply.value?, if_pos hStatus, hBody]
  rfl

theorem inquiry_get (url : String) :
    (c.get url).Inquiry [⟨"GET", url, c.headers⟩] fun replies v => firstValue? replies = some v := by
  apply Inquiry.log_bind
  refine .bind (fun answer _ v => isSuccess answer.1 = true ∧ Json.read answer.2.2 = .ok v)
    (.send ⟨"GET", url, c.headers⟩) ?_ ?_
  · intro (status, statusText, body)
    dsimp only
    split
    · rename_i hStatus
      apply Inquiry.ofExcept (fun _ => rfl)
      intro v hBody _
      exact ⟨hStatus, hBody⟩
    · exact .log_bind (.fail rfl [] _)
  · intro replies answer v hReply hBody
    exact firstValue?_of_response hReply hBody.1 hBody.2

theorem inquiry_describeCube (guid : String) :
    (c.describeCube guid).Inquiry [c.describeRequest guid] TellsCube := by
  refine .bind (fun v _ d => Cube.descriptionCheck v = .ok d) (c.inquiry_get _) ?_ ?_
  · intro v
    exact .ofExcept (fun _ => rfl) fun d hCheck _ => hCheck
  · intro _ v d hValue hCheck
    exact ⟨v, hValue, hCheck⟩

theorem inquiry_fetchSlice (guid : String) (dim lineno : Number) :
    (c.fetchSlice guid dim lineno).Inquiry [c.sliceRequest guid dim lineno] TellsTiles := by
  refine .bind (fun v _ tiles => Payload.parse v = .ok tiles) (c.inquiry_get _) ?_ ?_
  · intro v
    apply Inquiry.ofExcept_bind (fun _ => rfl)
    intro tiles hParse
    exact .log_bind (.pure fun _ => hParse)
  · intro _ v tiles hValue hParse
    exact ⟨v, hValue, hParse⟩

end Client

end CubeSlice
