import CubeSlice.Proofs.Alongside
import CubeSlice.Proofs.Traversal

/-!
# Replies

A client whose question is answered takes one reply and shows the request, with what is logged around it. A response of
success that carries the description of a cube is such an answer.
-/

namespace CubeSlice

def World.pastReply (w : World) : World := { w with replies := w.replies.tail }

def World.answered (w : World) (shown : List Event) : World := { w.pastReply with events := w.events ++ shown }

/-- The events of one question: the request, and what is logged. -/
def Poses (r : Request) (shown : List Event) : Prop := shown.filter (fun e => !e.isLog) = [.request r]

theorem Poses.append_shown {r : Request} {shown : List Event} (h : Poses r shown) (level : Log.Level)
    (call : Log.Call) : Poses r (shown ++ level.shown call) := by
  rw [Poses, List.filter_append, h, level.filter_shown, List.append_nil]

theorem exists_response_of_firstValue? {replies : List Reply} {v : Json.Value} (h : firstValue? replies = some v) :
    ∃ status statusText body, replies.head? = some (.response status statusText body) ∧
      Client.isSuccess status = true ∧ Json.read body = .ok v := by
  obtain ⟨reply, hReply, hValue⟩ := Option.bind_eq_some_iff.mp h
  cases reply with
  | response status statusText body =>
    rw [Reply.value?] at hValue
    split at hValue
    · rename_i hStatus
      exact ⟨status, statusText, body, hReply, hStatus, Traversal.toOption_eq_some_iff.mp hValue⟩
    · cases hValue
  | failure name message => cases hValue
  | thrown value => cases hValue

namespace Client

open Session

variable {w : World} (c : Client)

theorem exists_run_get (url : String) {v : Json.Value} (h : firstValue? w.replies = some v) :
    ∃ shown, Poses ⟨"GET", url, c.headers⟩ shown ∧ (c.get url).run w = (.ok v, w.answered shown) := by
  obtain ⟨status, statusText, body, hReply, hStatus, hBody⟩ := exists_response_of_firstValue? h
  have hLog := run_log .debug "client" ("GET " ++ url) w
  have hSend := run_send ⟨"GET", url, c.headers⟩ ((log .debug "client" ("GET " ++ url)).run w).2
  rw [hLog] at hSend
  rw [hReply] at hSend
  refine ⟨w.level.shown ⟨.debug, "client", [.string (.ofString ("GET " ++ url))]⟩ ++
    [.request ⟨"GET", url, c.headers⟩], ?_, ?_⟩
  · rw [Poses, List.filter_append, w.level.filter_shown]
    rfl
  · rw [get, run_bind_of_ok hLog, run_bind_of_ok hSend]
    simp only [hStatus, if_true, hBody]
    rw [World.answered, ← List.append_assoc]
    rfl

theorem exists_run_describeCube (guid : String) {d : Cube.Description} (h : TellsCube w.replies d) :
    ∃ shown, Poses (c.describeRequest guid) shown ∧ (c.describeCube guid).run w = (.ok d, w.answered shown) := by
  obtain ⟨v, hValue, hCheck⟩ := h
  obtain ⟨shown, hPoses, hRun⟩ := c.exists_run_get (Url.join c.baseUrl [guid]) hValue
  refine ⟨shown, hPoses, ?_⟩
  rw [describeCube, run_bind_of_ok hRun, hCheck]
  rfl

end Client

end CubeSlice
