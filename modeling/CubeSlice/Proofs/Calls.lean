import CubeSlice.Proofs.Client
import CubeSlice.Proofs.Tile.Agreement

/-!
# Calls to a client

A client keeps nothing from one call to the next. Each call sends one request, takes one reply and ends as a function
of its arguments and that reply says. The tiles of a slice are read from a body as they are from the text of a payload,
except that a text which is no JSON is told to come from an address.
-/

namespace CubeSlice

open Session

/-- A session that asks these questions in every world and ends as the replies say. -/
def Session.Answers {α : Type} (s : Session α) (questions : List Request)
    (result : List Reply → Except Interruption α) : Prop :=
  ∀ w, ∃ after, s.run w = (result w.replies, after) ∧ w.Asked after questions

/-- A session that asks nothing and ends in one way. -/
abbrev Session.Settles {α : Type} (s : Session α) (result : Except Interruption α) : Prop :=
  s.Answers [] fun _ => result

/-- What comes back for a request; a transport without replies rejects it. -/
def Reply.received : Option Reply → Except Interruption (Number × String × String)
  | none => .error (.failure (.foreign "Error" "no response left"))
  | some (.response status statusText body) => .ok (status, statusText, body)
  | some (.failure name message) => .error (.failure (.foreign name message))
  | some (.thrown v) => .error (.thrown v)

namespace Session.Answers

variable {α β : Type} {s : Session α} {f : α → Session β} {questions : List Request}

theorem pure (a : α) : (pure a : Session α).Settles (.ok a) := fun w => ⟨w, rfl, .of_eq rfl rfl⟩

theorem fail (e : Failure) : (fail e : Session α).Settles (.error (.failure e)) :=
  fun w => ⟨w, rfl, .of_eq rfl rfl⟩

theorem ofExcept {ε : Type} (wrap : ε → Failure) (r : Except ε α) :
    (ofExcept wrap r).Settles (r.mapError (Interruption.failure ∘ wrap)) := by
  cases r with
  | error e => exact fail (wrap e)
  | ok a => exact pure a

theorem log (method : Log.Method) (scope text : String) : (log method scope text).Settles (.ok ()) :=
  fun w => exists_run_log method scope text w

theorem send (r : Request) : (send r).Answers [r] fun replies => Reply.received replies.head? := by
  intro w
  refine ⟨sent r w, ?_, ⟨[.request r], rfl, rfl⟩, List.drop_one.symm⟩
  dsimp only
  rw [run_send]
  rcases w.replies.head? with _ | ⟨⟩ <;> rfl

theorem bind {first : List Reply → Except Interruption α} {rest : α → Except Interruption β}
    (hs : s.Answers questions first) (hf : ∀ a, (f a).Settles (rest a)) :
    (s >>= f).Answers questions fun replies => first replies >>= rest := by
  intro w
  obtain ⟨mid, hRun, hAsked⟩ := hs w
  cases hFirst : first w.replies with
  | error i =>
    rw [hFirst] at hRun
    refine ⟨mid, ?_, hAsked⟩
    dsimp only
    rw [run_bind_of_error hRun, hFirst]
    rfl
  | ok a =>
    rw [hFirst] at hRun
    obtain ⟨after, hRest, hQuiet⟩ := hf a mid
    have hBoth := hAsked.trans hQuiet
    rw [List.append_nil] at hBoth
    refine ⟨after, ?_, hBoth⟩
    dsimp only
    rw [run_bind_of_ok hRun, hRest, hFirst]
    rfl

theorem bind_ok {f : α → Session α} {result : List Reply → Except Interruption α}
    (hs : s.Answers questions result) (hf : ∀ a, (f a).Settles (.ok a)) : (s >>= f).Answers questions result := by
  have hBind := hs.bind hf
  have hSame (r : Except Interruption α) : r >>= Except.ok = r := bind_pure r
  simp only [hSame] at hBind
  exact hBind

theorem map (g : α → β) {result : List Reply → Except Interruption α} (h : s.Answers questions result) :
    (g <$> s).Answers questions fun replies => g <$> result replies := by
  have hBind := h.bind fun a => pure (g a)
  simp only [map_eq_pure_bind]
  exact hBind

theorem log_bind {method : Log.Method} {scope text : String} {f : Unit → Session β}
    {result : List Reply → Except Interruption β} (h : (f ()).Answers questions result) :
    (Session.log method scope text >>= f).Answers questions result := by
  intro w
  obtain ⟨mid, hRun, hQuiet⟩ := log method scope text w
  obtain ⟨after, hRest, hAsked⟩ := h mid
  have hReplies : mid.replies = w.replies := hQuiet.replies
  rw [hReplies] at hRest
  refine ⟨after, ?_, hQuiet.trans hAsked⟩
  rw [run_bind_of_ok hRun, hRest]

end Session.Answers

def Failure.path? : Failure → Option WideText
  | .payload (.elsewhere path _) => some path.text
  | .payload (.notJson _) => some ""
  | .notJson .. => some ""
  | .cube _ v => some v.path.text
  | f => f.malformedLayout?.map fun (_, _, path) => .ofString path

namespace Client

inductive Call where
  | listCubes
  | describeCube (guid : String)
  | fetchSlicePayload (guid : String) (dim lineno : Number)
  | fetchSlice (guid : String) (dim lineno : Number)

inductive Answer where
  | cubes (links : List (WideText × WideText))
  | description (d : Cube.Description)
  | payload (v : Json.Value)
  | tiles (tiles : List Tile)

variable (c : Client)

def valueIn (url : String) : Number × String × String → Except Interruption Json.Value
  | (status, statusText, body) =>
    if isSuccess status then (Json.read body).mapError (Interruption.failure ∘ .notJson url)
    else .error (.failure (.status status statusText url))

def valueOf (url : String) (reply : Option Reply) : Except Interruption Json.Value :=
  Reply.received reply >>= valueIn url

theorem valueOf_response (url : String) (status : Number) (statusText body : String) :
    valueOf url (some (.response status statusText body)) = valueIn url (status, statusText, body) := by
  rw [valueOf, Reply.received, Traversal.ok_bind]

theorem answers_get (url : String) :
    (c.get url).Answers [⟨"GET", url, c.headers⟩] fun replies => valueOf url replies.head? := by
  apply Answers.log_bind
  apply Answers.bind (Answers.send ⟨"GET", url, c.headers⟩)
  intro (status, statusText, body)
  dsimp only
  rw [valueIn]
  split
  · exact .ofExcept _ _
  · exact .log_bind (.fail _)

namespace Call

def segments : Call → List String
  | listCubes => []
  | describeCube guid => [guid]
  | fetchSlicePayload guid dim lineno => [guid, "slice", dim.text, lineno.text]
  | fetchSlice guid dim lineno => [guid, "slice", dim.text, lineno.text]

def url (call : Call) : String := Url.join c.baseUrl call.segments

def session : Call → Session Answer
  | listCubes => .cubes <$> c.listCubes
  | describeCube guid => .description <$> c.describeCube guid
  | fetchSlicePayload guid dim lineno => .payload <$> c.fetchSlicePayload guid dim lineno
  | fetchSlice guid dim lineno => .tiles <$> c.fetchSlice guid dim lineno

def outcome (call : Call) (reply : Option Reply) : Except Interruption Answer :=
  let value := valueOf (call.url c) reply
  match call with
  | listCubes =>
    .cubes <$> (value >>= fun v => (Cube.listingCheck v).mapError (Interruption.failure ∘ .cube "cube listing"))
  | describeCube _ =>
    .description <$> (value >>= fun v =>
      (Cube.descriptionCheck v).mapError (Interruption.failure ∘ .cube "cube description"))
  | fetchSlicePayload .. => .payload <$> value
  | fetchSlice .. => .tiles <$> (value >>= fun v => (Payload.parse v).mapError (Interruption.failure ∘ .payload))

/-- A call asks its question and ends as the reply says, whatever the world is like. -/
theorem answers_session (call : Call) :
    (call.session c).Answers [⟨"GET", Url.join c.baseUrl call.segments, c.headers⟩] fun replies =>
      call.outcome c replies.head? := by
  cases call with
  | listCubes => exact ((c.answers_get _).bind fun v => .ofExcept _ _).map Answer.cubes
  | describeCube guid => exact ((c.answers_get _).bind fun v => .ofExcept _ _).map Answer.description
  | fetchSlicePayload guid dim lineno => exact (c.answers_get _).map Answer.payload
  | fetchSlice guid dim lineno =>
    apply Answers.map Answer.tiles
    apply Answers.bind (c.answers_get _)
    intro v
    apply Answers.bind_ok (.ofExcept _ _)
    intro tiles
    exact .log_bind (.pure tiles)

end Call

/-- A body as a client reads it from an address, and as it reads as the text of a payload: the same tiles; the same
failure; or, where it is no JSON, failures that differ in the message only, and there in the source. -/
inductive ReadAlike (url body : String) : Except Interruption Answer → Except Failure (List Tile) → Prop
  | tiles (tiles : List Tile) : ReadAlike url body (.ok (.tiles tiles)) (.ok tiles)
  | malformed (f : Failure) {v : Json.Value} (hBody : Json.read body = .ok v) :
    ReadAlike url body (.error (.failure f)) (.error f)
  | notJson {f f' : Failure} {reason : Json.ReadError} (hBody : Json.read body = .error reason)
    (hName : f.name = f'.name) (hPath : f.path? = f'.path?) (hLayout : f.malformedLayout? = f'.malformedLayout?)
    (hMessage : f.message = "response from " ++ url ++ " is not valid JSON: " ++ reason.message)
    (hMessage' : f'.message = "payload is not valid JSON: " ++ reason.message) :
    ReadAlike url body (.error (.failure f)) (.error f')

inductive Ends (call : Call) : Reply → Except Interruption Answer → Prop
  | rejected {name message : String} : Ends call (.failure name message) (.error (.failure (.foreign name message)))
  | thrown {v : Json.Value} : Ends call (.thrown v) (.error (.thrown v))
  | refused {status : Number} {statusText body : String}
    (hStatus : ¬ ∃ q : ℚ, status.value? = some q ∧ 200 ≤ q ∧ q ≤ 299) :
    Ends call (.response status statusText body) (.error (.failure (.status status statusText (call.url c))))
  | read {status : Number} {statusText body : String} {result : Except Interruption Answer}
    (hStatus : ∃ q : ℚ, status.value? = some q ∧ 200 ≤ q ∧ q ≤ 299)
    (hTiles : ∀ guid dim lineno, call = .fetchSlice guid dim lineno →
      ReadAlike (call.url c) body result ((Payload.parseText body).mapError .payload)) :
    Ends call (.response status statusText body) result

theorem outcome_of_error {call : Call} {reply : Option Reply} {i : Interruption}
    (h : valueOf (call.url c) reply = .error i) : call.outcome c reply = .error i := by
  cases call <;> (unfold Call.outcome; rw [h]; rfl)

theorem readAlike_fetchSlice (guid : String) (dim lineno : Number) {status : Number} (statusText body : String)
    (hStatus : isSuccess status = true) :
    ReadAlike ((Call.fetchSlice guid dim lineno).url c) body
      ((Call.fetchSlice guid dim lineno).outcome c (some (.response status statusText body)))
      ((Payload.parseText body).mapError .payload) := by
  rw [Call.outcome, valueOf_response, valueIn, if_pos hStatus, Payload.parseText]
  cases hBody : Json.read body with
  | error reason => exact .notJson hBody rfl rfl rfl rfl rfl
  | ok v =>
    show ReadAlike _ _ (.tiles <$> (Payload.parse v).mapError (Interruption.failure ∘ .payload))
      ((Payload.parse v).mapError .payload)
    cases Payload.parse v with
    | error e => exact .malformed (.payload e) hBody
    | ok tiles => exact .tiles tiles

theorem ends_outcome (call : Call) (reply : Reply) : Ends c call reply (call.outcome c (some reply)) := by
  cases reply with
  | failure name message =>
    rw [c.outcome_of_error (i := .failure (.foreign name message)) rfl]
    exact .rejected
  | thrown v =>
    rw [c.outcome_of_error (i := .thrown v) rfl]
    exact .thrown
  | response status statusText body =>
    cases hStatus : isSuccess status with
    | false =>
      have hValue := valueOf_response (call.url c) status statusText body
      rw [valueIn, hStatus, if_neg Bool.false_ne_true] at hValue
      rw [c.outcome_of_error hValue]
      exact .refused (isSuccess_iff.not.mp (Bool.eq_false_iff.mp hStatus))
    | true =>
      refine .read (isSuccess_iff.mp hStatus) fun guid dim lineno hCall => ?_
      subst hCall
      exact c.readAlike_fetchSlice guid dim lineno statusText body hStatus

theorem mem_headers_iff {name value : String} :
    (name, value) ∈ c.headers ↔
      name = "Accept" ∧ value = "application/json" ∨
      name = "Authorization" ∧ ∃ token, c.token = some token ∧ token ≠ "" ∧ value = "Bearer " ++ token := by
  unfold headers
  cases c.token with
  | none => simp
  | some token =>
    by_cases hToken : token = ""
    · simp [hToken]
    · simp [hToken]

theorem nodup_headers : (c.headers.map Prod.fst).Nodup := by
  unfold headers
  split
  · split <;> simp
  · simp

/-- What is seen of a call: how it ends, the events that it adds, and the replies that it leaves. -/
structure Visit where
  result : Except Interruption Answer
  shown : List Event
  left : List Reply

def Call.visit (call : Call) (w : World) : Visit where
  result := ((call.session c).run w).1
  shown := ((call.session c).run w).2.events.drop w.events.length
  left := ((call.session c).run w).2.replies

/-- Calls one after the other, each in the world that the one before has left. -/
def visits (w : World) : List Call → List Visit
  | [] => []
  | call :: rest => call.visit c w :: visits ((call.session c).run w).2 rest

structure Visit.IsOf (call : Call) (replies : List Reply) (visit : Visit) : Prop where
  asks : visit.shown.filter (fun e => !e.isLog) = [.request ⟨"GET", Url.join c.baseUrl call.segments, c.headers⟩]
  result_eq : visit.result = call.outcome c replies.head?
  left_eq : visit.left = replies.tail

theorem isOf_visit (call : Call) (w : World) : Visit.IsOf c call w.replies (call.visit c w) := by
  obtain ⟨after, hRun, ⟨trace, hEvents, hShown⟩, hReplies⟩ := call.answers_session c w
  have hAdded : after.events.drop w.events.length = trace := by rw [hEvents, List.drop_left]
  refine ⟨?_, ?_, ?_⟩
  · rw [Call.visit, hRun, hAdded]
    exact hShown
  · rw [Call.visit, hRun]
  · rw [Call.visit, hRun]
    exact hReplies.trans List.drop_one

theorem isOf_visits {calls : List Call} {k : Nat} {call : Call} (h : calls[k]? = some call) (w : World) :
    ∃ visit, (c.visits w calls)[k]? = some visit ∧ Visit.IsOf c call (w.replies.drop k) visit := by
  -- The world goes along: a call finds the replies that the one before has left.
  induction calls generalizing w k with
  | nil => cases h
  | cons first rest ih =>
    have hFirst := c.isOf_visit first w
    cases k with
    | zero =>
      cases h
      exact ⟨_, rfl, hFirst⟩
    | succ k =>
      obtain ⟨visit, hVisit, hOf⟩ := ih h ((first.session c).run w).2
      have hLeft : ((first.session c).run w).2.replies = w.replies.tail := hFirst.left_eq
      rw [hLeft, List.drop_tail] at hOf
      exact ⟨visit, hVisit, hOf⟩

theorem length_visits (w : World) (calls : List Call) : (c.visits w calls).length = calls.length := by
  induction calls generalizing w with
  | nil => rfl
  | cons call rest ih => rw [visits, List.length_cons, List.length_cons, ih]

/-- Whatever has been called before and however it ended, a call sends its one request with the headers of the client,
takes the one reply that is next, and ends as its arguments and this reply determine. -/
theorem visits_settled (w : World) (calls : List Call) :
    (c.visits w calls).length = calls.length ∧
    (∀ k call, calls[k]? = some call → ∃ visit, (c.visits w calls)[k]? = some visit ∧
      visit.shown.filter (fun e => !e.isLog) = [.request ⟨"GET", Url.join c.baseUrl call.segments, c.headers⟩] ∧
      visit.left = w.replies.drop (k + 1) ∧
      visit.result = call.outcome c w.replies[k]?) ∧
    (∀ name value, (name, value) ∈ c.headers ↔
      name = "Accept" ∧ value = "application/json" ∨
      name = "Authorization" ∧ ∃ token, c.token = some token ∧ token ≠ "" ∧ value = "Bearer " ++ token) ∧
    (c.headers.map Prod.fst).Nodup ∧
    ∀ call reply, Ends c call reply (call.outcome c (some reply)) := by
  refine ⟨c.length_visits w calls, ?_, fun _ _ => c.mem_headers_iff, c.nodup_headers, c.ends_outcome⟩
  intro k call hCall
  obtain ⟨visit, hVisit, hOf⟩ := c.isOf_visits hCall w
  refine ⟨visit, hVisit, hOf.asks, ?_, ?_⟩
  · rw [hOf.left_eq, List.tail_drop]
  · rw [hOf.result_eq, List.head?_drop]

end Client

end CubeSlice
