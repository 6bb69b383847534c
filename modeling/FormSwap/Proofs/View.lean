import FormSwap.Page.Pipeline
import FormSwap.Proofs.Replies
import Mathlib.Algebra.Order.Group.Multiset
import Mathlib.Logic.Function.Basic

/-!
# Views

The ids of the hosts, forms and components that come with a response depend on what was created
before. A `View` is a page without them: a new host is represented by its attributes and contents, a
form by its data, and replacements by their number. The events of a document are a multiset.
`Proofs.Depict` relates views to pages.

A poll changes one component, its host, and the place of this host in its document. So polls of
components on different hosts commute.

Main definitions:

- `View`: a page without the ids of new objects
- `View.poll`: one poll of a pipeline in a view

Main results:

- `View.poll_comm`: the poll of a pipeline that awaits a reply commutes with the poll of a pipeline
  that is `Apart` from it
- `View.poll_deliver`: `deliver` commutes with the polls of other pipelines
-/

namespace FormSwap

open FormSwap.Markup

/-! ## The parts of a view -/

/-- `Contents` is the markup of a host's contents, and the form in them. -/
structure Contents where
  html : String
  form : Option FormData
deriving DecidableEq, Repr

/-- `Contents.read markup` is the contents that markup yields. -/
def Contents.read (markup : String) : Contents :=
  ⟨markup, readForm? markup.toList⟩

/-- `Piece` is a child of a document: an old host by its id, or a new one by its attributes and
contents. -/
inductive Piece where
  | markup (html : String)
  | host (h : HostId)
  | fresh (attributes : List (String × String)) (contents : Contents)
deriving DecidableEq, Repr

namespace Piece

/-- `ofFragment x` is the piece that a fragment yields. -/
def ofFragment : Fragment → Piece
  | .text s => .markup (String.ofList s)
  | .host tag inner _ => .fresh (readAttributes tag) (.read (String.ofList inner))

/-- `read markup` is the pieces that markup yields. -/
def read (markup : String) : List Piece :=
  (fragments markup.toList).map ofFragment

/-- `splice h new l` replaces the first occurrence of `h` by `new`. -/
def splice (h : HostId) (new : List Piece) : List Piece → List Piece
  | [] => []
  | piece :: rest => if piece = .host h then new ++ rest else piece :: splice h new rest

end Piece

/-- `DocumentView` is the pieces of a document, and the multiset of its events. -/
@[ext]
structure DocumentView where
  pieces : List Piece
  events : Multiset Notification

/-- `HostView` is a host in a view. -/
structure HostView where
  attributes : List (String × String) := []
  contents : Contents := ⟨"", none⟩
  parent : Option DocumentId := none
  dispatched : List Notification := []
  rejecting : Bool := false

/-- `ComponentView` is a component in a view, with the number of its replacements. -/
structure ComponentView where
  host : HostId := 0
  config : Config := {}
  state : SubmissionState := .idle
  attached : Bool := false
  detached : Bool := false
  replacements : Nat := 0
deriving DecidableEq, Repr

/-- `StageView` is the stage of a pipeline in a view. The request is fixed by the submit. -/
inductive StageView where
  | accepted (request : Except SubmitError (FormRequest × Payload))
  | awaiting (call : Call) (payload : Payload)
  | settling (deadline : Duration)
  | finished

/-- `PipelineView` is a pipeline in a view. -/
structure PipelineView where
  owner : ComponentId
  stage : StageView
  aborted : Bool

/-- `View` is a page without the ids of new objects. -/
structure View where
  document : DocumentId → Option DocumentView
  host : HostId → HostView
  component : ComponentId → ComponentView
  pipeline : PipelineId → Option PipelineView
  transport : MockTransport
  now : Duration
  faults : List Fault

/-! ## Polls -/

/-- `Finding` is what a pipeline finds in its poll. -/
inductive Finding where
  /-- The pipeline has ended or was aborted. -/
  | stop
  /-- The reply is pending. -/
  | wait (call : Call) (payload : Payload)
  /-- The settle delay has this deadline. -/
  | sleep (deadline : Duration)
  /-- The exchange has ended, with or without a response to swap in. -/
  | ended (response : Option (String × Notification))

/-- `Finding.ofProgress payload progress` is the finding of a poll of a call. -/
def Finding.ofProgress (payload : Payload) : Progress → Finding
  | .waiting call => .wait call payload
  | .finished (.error _) => .ended none
  | .finished (.ok response) =>
    match response.accept with
    | .error _ => .ended none
    | .ok response => .ended (some (response.body, ⟨payload.encode⟩))

/-- `v.pollFinding call payload` is the transport after a poll of a call, and the finding. -/
def MockTransport.pollFinding (v : MockTransport) (call : Call) (payload : Payload) :
    MockTransport × Finding :=
  ((v.poll call).1, .ofProgress payload (v.poll call).2)

/-- `pipe.ask v` is the transport after a poll of the pipeline, and the finding. -/
def PipelineView.ask (pipe : PipelineView) (v : MockTransport) : MockTransport × Finding :=
  if pipe.aborted then (v, .stop)
  else
    match pipe.stage with
    | .accepted (.error _) => (v, .ended none)
    | .accepted (.ok (request, payload)) => v.pollFinding (.unsent request) payload
    | .awaiting call payload => v.pollFinding call payload
    | .settling deadline => (v, .sleep deadline)
    | .finished => (v, .stop)

/-- `Change` is the effect of a poll, apart from the transport. -/
structure Change where
  stage : StageView
  component : ComponentView
  host : HostView
  /-- The pieces that replace the host in its document. -/
  pieces : Option (List Piece) := none
  /-- The events that reach the document of the host. -/
  events : Multiset Notification := 0

/-- `e.edit h v` is the document of the host `h` after a change. -/
def Change.edit (e : Change) (h : HostId) (v : DocumentView) : DocumentView where
  pieces :=
    match e.pieces with
    | none => v.pieces
    | some new => Piece.splice h new v.pieces
  events := v.events + e.events

/-- `v.unmark` is the host without the submitting attribute. -/
def HostView.unmark (v : HostView) : HostView :=
  { v with attributes := v.attributes.filter fun a => a.1 != submittingAttribute }

namespace View

/-- `w.fails f`: the operation is set to fail. -/
def fails (w : View) (f : Fault) : Bool :=
  w.faults.contains f

/-- `w.replaceable h`: `h` is a child of its document, which was not dropped. -/
def replaceable (w : View) (h : HostId) : Bool :=
  !w.fails .setOuterHtml && (w.host h).parent.any fun d =>
    (w.document d).any fun v => v.pieces.contains (.host h)

/-- `w.attachable contents`: the contents have a form, and adding listeners does not fail. -/
def attachable (w : View) (contents : Contents) : Bool :=
  contents.form.isSome && !w.fails .addSubmitListener

/-- `w.mountable piece`: a component is mounted on the piece. -/
def mountable (w : View) : Piece → Bool
  | .fresh attributes contents =>
    (Config.ofAttributes (lookup attributes)).isOk && w.attachable contents
  | _ => false

/-- `w.still c` ends the pipeline of `c` and changes nothing else. -/
def still (w : View) (c : ComponentId) : Change where
  stage := .finished
  component := w.component c
  host := w.host (w.component c).host

/-- `w.swapOuter c body n` is the change of an outer swap. -/
def swapOuter (w : View) (c : ComponentId) (body : String) (n : Notification) : Change :=
  let k := w.component c
  let new := Piece.read body
  if w.replaceable k.host then
    { stage := .finished
      component :=
        { k with
          detached := true
          attached := false
          replacements := k.replacements + new.countP w.mountable }
      host := { w.host k.host with parent := none }
      pieces := some new
      events := {n} }
  else w.still c

/-- `w.swapInner c body n` is the change of an inner swap. -/
def swapInner (w : View) (c : ComponentId) (body : String) (n : Notification) : Change :=
  let k := w.component c
  let host := w.host k.host
  let contents := Contents.read body
  if host.parent.isSome && !w.fails .setInnerHtml then
    { stage := .finished
      component := { k with attached := w.attachable contents }
      host :=
        { host with
          contents
          dispatched := if host.rejecting then host.dispatched else host.dispatched ++ [n] }
      events := if host.rejecting then 0 else {n} }
  else w.still c

/-- `w.swap c body n` is the change of a swap. -/
def swap (w : View) (c : ComponentId) (body : String) (n : Notification) : Change :=
  match (w.component c).config.swap with
  | .outer => w.swapOuter c body n
  | .inner => w.swapInner c body n

/-- `w.settle deadline e` is `e` followed by a settle delay with this deadline. -/
def settle (w : View) (deadline : Duration) (e : Change) : Change :=
  if deadline ≤ w.now then
    { e with
      stage := .finished
      component := { e.component with state := .idle }
      host := if w.fails .removeAttribute then e.host else e.host.unmark }
  else { e with stage := .settling deadline }

/-- `w.change c finding` is the effect of a poll of the pipeline of `c`. -/
def change (w : View) (c : ComponentId) : Finding → Change
  | .stop => w.still c
  | .wait call payload => { w.still c with stage := .awaiting call payload }
  | .sleep deadline => w.settle deadline (w.still c)
  | .ended none => w.settle (w.now + (w.component c).config.delay) (w.still c)
  | .ended (some (body, n)) =>
    w.settle (w.now + (w.component c).config.delay) (w.swap c body n)

/-- `w.put s pipe transport e` is the view after the change of a poll of `s`. -/
def put (w : View) (s : PipelineId) (pipe : PipelineView) (transport : MockTransport) (e : Change) :
    View :=
  let h := (w.component pipe.owner).host
  { w with
    document := fun d =>
      (w.document d).map fun v => if (w.host h).parent = some d then e.edit h v else v
    host := Function.update w.host h e.host
    component := Function.update w.component pipe.owner e.component
    pipeline := Function.update w.pipeline s (some { pipe with stage := e.stage })
    transport }

/-- `w.poll s` is the view after a poll of `s`. -/
def poll (w : View) (s : PipelineId) : View :=
  match w.pipeline s with
  | none => w
  | some pipe =>
    w.put s pipe (pipe.ask w.transport).1 (w.change pipe.owner (pipe.ask w.transport).2)

/-- `w.deliver d outcome` is the view after a deferred reply is delivered. -/
def deliver (w : View) (d : DeferredId) (outcome : Outcome) : View :=
  { w with transport := w.transport.settle d (.delivered outcome) }

end View

/-! ## Pieces of a document -/

namespace Piece

variable {h h' : HostId} {new new' l : List Piece}

/-- `read` has no old hosts. -/
theorem host_notMem_read (h : HostId) (markup : String) : .host h ∉ read markup := by
  simp only [read, List.mem_map, not_exists, not_and]
  intro fragment _
  cases fragment <;> simp [ofFragment]

theorem splice_append (hh : .host h ∉ l) (rest : List Piece) :
    splice h new (l ++ rest) = l ++ splice h new rest := by
  induction l with
  | nil => rfl
  | cons piece l ih =>
    simp only [List.mem_cons, not_or] at hh
    simp [splice, Ne.symm hh.1, ih hh.2]

/-- `splice` preserves the other hosts. -/
theorem host_mem_splice (hne : h' ≠ h) (hnew : .host h' ∉ new) :
    .host h' ∈ splice h new l ↔ .host h' ∈ l := by
  induction l with
  | nil => rfl
  | cons piece l ih =>
    simp only [splice]
    split
    · rename_i hpiece
      simp [hpiece, hnew, hne]
    · simp [ih]

/-- `splice` of two hosts commutes. -/
theorem splice_comm (hne : h ≠ h') (hnew : .host h' ∉ new) (hnew' : .host h ∉ new') :
    splice h new (splice h' new' l) = splice h' new' (splice h new l) := by
  induction l with
  | nil => rfl
  | cons piece l ih =>
    by_cases hp : piece = .host h
    · have hp' : piece ≠ .host h' := by simp [hp, hne]
      simp [splice, hp, hne, splice_append hnew]
    · by_cases hp' : piece = .host h'
      · simp [splice, hp', Ne.symm hne, splice_append hnew']
      · simp [splice, hp, hp', ih]

end Piece

/-! ## Changes on different hosts -/

/-- `e.Fresh`: the inserted pieces have no old hosts. -/
def Change.Fresh (e : Change) : Prop :=
  ∀ new, e.pieces = some new → ∀ h, .host h ∉ new

/-- `edit` on different hosts commutes. -/
theorem Change.edit_comm {e e' : Change} {h h' : HostId} (hne : h ≠ h') (he : e.Fresh)
    (he' : e'.Fresh) (v : DocumentView) : e.edit h (e'.edit h' v) = e'.edit h' (e.edit h v) := by
  have hpieces : (e.edit h (e'.edit h' v)).pieces = (e'.edit h' (e.edit h v)).pieces := by
    simp only [edit]
    cases hnew : e.pieces with
    | none => rfl
    | some new =>
      cases hnew' : e'.pieces with
      | none => rfl
      | some new' => exact Piece.splice_comm hne (he _ hnew _) (he' _ hnew' _)
  have hevents : (e.edit h (e'.edit h' v)).events = (e'.edit h' (e.edit h v)).events :=
    add_right_comm _ _ _
  exact DocumentView.ext hpieces hevents

/-- `edit` preserves the other hosts. -/
theorem Change.host_mem_edit {e : Change} {h h' : HostId} (hne : h' ≠ h) (he : e.Fresh)
    (v : DocumentView) : .host h' ∈ (e.edit h v).pieces ↔ .host h' ∈ v.pieces := by
  simp only [edit]
  cases hnew : e.pieces with
  | none => rfl
  | some new => exact Piece.host_mem_splice hne (he _ hnew _)

namespace View

section Change

variable {w : View} {c : ComponentId}

theorem still_fresh : (w.still c).Fresh := by
  intro new hnew
  cases hnew

theorem swap_fresh (body : String) (n : Notification) : (w.swap c body n).Fresh := by
  unfold swap swapOuter swapInner
  intro new hnew h
  split at hnew <;> dsimp only at hnew <;> split at hnew <;> cases hnew
  exact Piece.host_notMem_read h body

theorem swap_host (body : String) (n : Notification) :
    (w.swap c body n).component.host = (w.component c).host := by
  unfold swap swapOuter swapInner
  split <;> dsimp only <;> split <;> rfl

theorem swap_config (body : String) (n : Notification) :
    (w.swap c body n).component.config = (w.component c).config := by
  unfold swap swapOuter swapInner
  split <;> dsimp only <;> split <;> rfl

/-- `settle` does not depend on the stage. -/
theorem settle_stage (e : Change) (stage : StageView) (deadline : Duration) :
    w.settle deadline { e with stage } = w.settle deadline e := by
  unfold settle
  split <;> rfl

theorem settle_fresh {e : Change} (he : e.Fresh) (deadline : Duration) :
    (w.settle deadline e).Fresh := by
  unfold settle
  split <;> exact he

theorem settle_host (e : Change) (deadline : Duration) :
    (w.settle deadline e).component.host = e.component.host := by
  unfold settle
  split <;> rfl

theorem change_fresh (a : Finding) : (w.change c a).Fresh := by
  cases a with
  | stop | wait => exact still_fresh (w := w) (c := c)
  | sleep deadline => exact settle_fresh still_fresh _
  | ended response =>
    cases response with
    | none => exact settle_fresh still_fresh _
    | some r => exact settle_fresh (swap_fresh _ _) _

/-- `change` preserves the host of the component. -/
theorem change_host (a : Finding) :
    (w.change c a).component.host = (w.component c).host := by
  cases a with
  | stop | wait => rfl
  | sleep deadline => exact settle_host _ _
  | ended response =>
    cases response with
    | none => exact settle_host _ _
    | some r => exact (settle_host _ _).trans (swap_host _ _)

end Change

/-! ## Independent polls -/

section Apart

variable {w : View} {s t : PipelineId} {pipe pipe' : PipelineView}
  {transport transport' : MockTransport}
  {e e' : Change} {c : ComponentId} {h : HostId}

@[simp] theorem put_transport : (w.put s pipe transport e).transport = transport := rfl

/-- `put` preserves the other components. -/
theorem put_component (hc : c ≠ pipe.owner) :
    (w.put s pipe transport e).component c = w.component c :=
  Function.update_of_ne hc _ _

/-- `put` preserves the other hosts. -/
theorem put_host (hh : h ≠ (w.component pipe.owner).host) :
    (w.put s pipe transport e).host h = w.host h :=
  Function.update_of_ne hh _ _

theorem put_replaceable (he : e.Fresh) (hh : h ≠ (w.component pipe.owner).host) :
    (w.put s pipe transport e).replaceable h = w.replaceable h := by
  have hpieces (d : DocumentId) :
      (((w.put s pipe transport e).document d).any fun v => v.pieces.contains (.host h)) =
        (w.document d).any fun v => v.pieces.contains (.host h) := by
    simp only [put, Option.any_map]
    congr 1
    funext v
    split
    · rw [Bool.eq_iff_iff, List.contains_iff_mem, List.contains_iff_mem]
      exact Change.host_mem_edit hh he v
    · rfl
  unfold replaceable
  rw [put_host hh]
  simp only [hpieces]
  rfl

/-- `change` does not depend on the poll of a component on another host. -/
theorem change_put (he : e.Fresh) (hc : c ≠ pipe.owner)
    (hh : (w.component c).host ≠ (w.component pipe.owner).host) (a : Finding) :
    (w.put s pipe transport e).change c a = w.change c a := by
  have hcomponent : (w.put s pipe transport e).component c = w.component c := put_component hc
  have hhost : (w.put s pipe transport e).host (w.component c).host = w.host (w.component c).host :=
    put_host hh
  have hstill : (w.put s pipe transport e).still c = w.still c := by
    simp only [still, hcomponent, hhost]
  have hswap (body : String) (n : Notification) :
      (w.put s pipe transport e).swap c body n = w.swap c body n := by
    unfold swap swapOuter swapInner
    dsimp only
    rw [hcomponent, put_replaceable he hh, hstill, hhost]
    rfl
  have hsettle (deadline : Duration) (e' : Change) :
      (w.put s pipe transport e).settle deadline e' = w.settle deadline e' := rfl
  cases a with
  | stop => exact hstill
  | wait => simp only [change, hstill]
  | sleep => simp only [change, hstill, hsettle]
  | ended response =>
    have hnow : (w.put s pipe transport e).now = w.now := rfl
    cases response with
    | none => simp only [change, hstill, hsettle, hcomponent, hnow]
    | some r => simp only [change, hswap, hsettle, hcomponent, hnow]

/-- `put` of components on different hosts commutes. -/
theorem put_comm (hst : s ≠ t) (hc : pipe.owner ≠ pipe'.owner)
    (hh : (w.component pipe.owner).host ≠ (w.component pipe'.owner).host) (he : e.Fresh)
    (he' : e'.Fresh) :
    (w.put s pipe transport e).put t pipe' transport' e' =
      (w.put t pipe' transport' e').put s pipe transport' e := by
  simp only [put, Function.update_of_ne hc, Function.update_of_ne hc.symm,
    Function.update_of_ne hh, Function.update_of_ne hh.symm, Option.map_map, mk.injEq, and_true]
  refine ⟨?_, Function.update_comm hh _ _ _, Function.update_comm hc _ _ _,
    Function.update_comm hst _ _ _⟩
  funext d
  congr 1
  funext v
  simp only [Function.comp_apply]
  split <;> split <;> first | rfl | exact (Change.edit_comm hh he he' v).symm

end Apart

end View

/-! ## The transport in a poll -/

/-- `stage.reply?` is the reply that a pipeline awaits. -/
def StageView.reply? : StageView → Option DeferredId
  | .awaiting (.awaiting d) _ => some d
  | _ => none

namespace MockTransport

variable {v : MockTransport} {d : DeferredId} {call : Call}

/-- `poll` adds nothing to the queue. -/
theorem queued_poll (v : MockTransport) (call : Call) : (v.poll call).1.queued ⊆ v.queued := by
  cases call with
  | awaiting => exact fun _ h => h
  | unsent request =>
    simp only [poll, send]
    split
    · exact fun _ h => h
    all_goals
      rename_i rest hq
      have hpipe : rest ⊆ v.queue := by simp [hq]
      exact List.filterMap_subset _ hpipe

/-- A call that is pending after a poll awaits the reply that it awaited before, or one from the
queue. -/
theorem poll_waiting_cases (h : (v.poll call).2 = .waiting (.awaiting d)) :
    call = .awaiting d ∨ d ∈ v.queued := by
  have hawait (id : DeferredId) (hid : v.await id = .waiting (.awaiting d)) : id = d := by
    unfold await at hid
    split at hid <;> cases hid
    rfl
  cases call with
  | awaiting id => exact .inl (congrArg _ (hawait id h))
  | unsent request =>
    right
    simp only [poll, send] at h
    split at h
    · cases h
    · cases h
    · rename_i hq
      simp [queued, hq, Reply.deferred?, hawait _ h]

/-- `poll` commutes with `settle` of a reply that is neither awaited by the call nor queued. -/
theorem poll_settle (hq : d ∉ v.queued) (hcall : call ≠ .awaiting d) (status : Deferred) :
    (v.settle d status).poll call = ((v.poll call).1.settle d status, (v.poll call).2) := by
  have hawait (id : DeferredId) (hid : id ≠ d) : (v.settle d status).await id = v.await id := by
    simp only [await, settle, List.getElem?_set_ne (Ne.symm hid)]
  cases call with
  | awaiting id =>
    have hid : id ≠ d := fun h => hcall (congrArg _ h)
    simp only [poll, hawait id hid]
  | unsent request =>
    have hqueue : (v.settle d status).queue = v.queue := rfl
    simp only [poll, send, hqueue]
    split
    · rfl
    · rfl
    · rename_i id rest hrest
      have hid : id ≠ d := fun h => hq (by simp [queued, hrest, Reply.deferred?, h])
      rw [hawait id hid]
      rfl

end MockTransport

namespace PipelineView

variable {pipe : PipelineView} {v : MockTransport} {d : DeferredId}

theorem ask_of_stop (h : pipe.aborted = true ∨ pipe.stage = .finished) :
    pipe.ask v = (v, .stop) := by
  unfold ask
  rcases h with h | h
  · rw [if_pos h]
  · simp [h]

theorem ask_of_awaiting {call : Call} {payload : Payload} (ha : pipe.aborted = false)
    (hstage : pipe.stage = .awaiting call payload) : pipe.ask v = v.pollFinding call payload := by
  simp [ask, ha, hstage]

theorem deferred_ask (pipe : PipelineView) (v : MockTransport) :
    (pipe.ask v).1.deferred = v.deferred := by
  unfold ask
  split
  · rfl
  split
  · rfl
  · exact v.deferred_poll _
  · exact v.deferred_poll _
  · rfl
  · rfl

theorem queued_ask (pipe : PipelineView) (v : MockTransport) :
    (pipe.ask v).1.queued ⊆ v.queued := by
  unfold ask
  split
  · exact fun _ h => h
  split
  · exact fun _ h => h
  · exact v.queued_poll _
  · exact v.queued_poll _
  · exact fun _ h => h
  · exact fun _ h => h

/-- `ofProgress` is `wait` only for a pending call. -/
private theorem ofProgress_wait {payload payload' : Payload} {progress : Progress} {call : Call}
    (h : Finding.ofProgress payload progress = .wait call payload') : progress = .waiting call := by
  unfold Finding.ofProgress at h
  split at h
  · cases h
    rfl
  · cases h
  · split at h <;> cases h

/-- A pipeline that is pending after a poll awaits the reply that it awaited before, or one from the
queue. -/
theorem ask_wait {payload : Payload} (h : (pipe.ask v).2 = .wait (.awaiting d) payload) :
    pipe.stage.reply? = some d ∨ d ∈ v.queued := by
  unfold ask at h
  split at h
  · cases h
  split at h
  · cases h
  · rcases MockTransport.poll_waiting_cases (ofProgress_wait h) with hcall | hq
    · cases hcall
    · exact .inr hq
  · rename_i hstage
    rcases MockTransport.poll_waiting_cases (ofProgress_wait h) with hcall | hq
    · exact .inl (by rw [hstage, hcall]; rfl)
    · exact .inr hq
  · cases h
  · cases h

/-- `ask` commutes with `settle` of a reply that is neither awaited by the pipeline nor queued. -/
theorem ask_settle (hq : d ∉ v.queued) (hpipe : pipe.stage.reply? ≠ some d) (status : Deferred) :
    pipe.ask (v.settle d status) = ((pipe.ask v).1.settle d status, (pipe.ask v).2) := by
  unfold ask
  split
  · rfl
  split
  · rfl
  · rename_i request payload _
    have hcall : Call.unsent request ≠ .awaiting d := by simp
    simp only [MockTransport.pollFinding, MockTransport.poll_settle hq hcall]
  · rename_i call payload hstage
    have hcall : call ≠ .awaiting d := by
      rintro rfl
      exact hpipe (by rw [hstage]; rfl)
    simp only [MockTransport.pollFinding, MockTransport.poll_settle hq hcall]
  · rfl
  · rfl

end PipelineView

namespace View

/-! ## The view after a poll -/

section Pipeline

variable {w : View} {s t : PipelineId} {pipe : PipelineView} {c : ComponentId} {h : HostId}

theorem poll_of_none (hpipe : w.pipeline s = none) : w.poll s = w := by
  simp [poll, hpipe]

theorem poll_of_some (hpipe : w.pipeline s = some pipe) :
    w.poll s =
      w.put s pipe (pipe.ask w.transport).1 (w.change pipe.owner (pipe.ask w.transport).2) := by
  simp [poll, hpipe]

theorem poll_pipeline_of_ne (hts : t ≠ s) : (w.poll s).pipeline t = w.pipeline t := by
  cases hpipe : w.pipeline s with
  | none => rw [poll_of_none hpipe]
  | some pipe =>
    rw [poll_of_some hpipe]
    exact Function.update_of_ne hts _ _

/-- The polled pipeline after its poll. -/
theorem poll_pipeline_self (hpipe : w.pipeline s = some pipe) : (w.poll s).pipeline s =
    some { pipe with stage := (w.change pipe.owner (pipe.ask w.transport).2).stage } := by
  rw [poll_of_some hpipe]
  exact Function.update_self _ _ _

/-- `poll` preserves the hosts of components. -/
theorem poll_component_host : ((w.poll s).component c).host = (w.component c).host := by
  cases hpipe : w.pipeline s with
  | none => rw [poll_of_none hpipe]
  | some pipe =>
    rw [poll_of_some hpipe]
    by_cases hc : c = pipe.owner
    · subst hc
      have hself : (w.put s pipe (pipe.ask w.transport).1
          (w.change pipe.owner (pipe.ask w.transport).2)).component pipe.owner =
            (w.change pipe.owner (pipe.ask w.transport).2).component := Function.update_self _ _ _
      rw [hself, change_host]
    · rw [put_component hc]

/-- `poll` of an ended or aborted pipeline ends it. -/
theorem poll_of_stop (hpipe : w.pipeline s = some pipe)
    (hstop : pipe.aborted = true ∨ pipe.stage = .finished) : w.poll s =
      { w with
        pipeline := Function.update w.pipeline s (some { pipe with stage := .finished }) } := by
  rw [poll_of_some hpipe, PipelineView.ask_of_stop hstop]
  simp [put, change, still, Change.edit]

/-- `poll` does not read the other pipelines. -/
theorem poll_update (hst : s ≠ t) (x : Option PipelineView) :
    ({ w with pipeline := Function.update w.pipeline t x } : View).poll s =
      { w.poll s with pipeline := Function.update (w.poll s).pipeline t x } := by
  cases hpipe : w.pipeline s with
  | none =>
    rw [poll_of_none hpipe, poll_of_none]
    exact (Function.update_of_ne hst _ _).trans hpipe
  | some pipe =>
    have hpipe' : ({ w with pipeline := Function.update w.pipeline t x } : View).pipeline s =
        some pipe := (Function.update_of_ne hst _ _).trans hpipe
    have hchange (a : Finding) :
        ({ w with pipeline := Function.update w.pipeline t x } : View).change pipe.owner a =
          w.change pipe.owner a := by
      cases a with
      | stop | wait | sleep => rfl
      | ended response => cases response <;> rfl
    rw [poll_of_some hpipe, poll_of_some hpipe', hchange]
    simp only [put, Function.update_comm hst]

end Pipeline

/-! ## Polls commute -/

/-- `w.Awaits s c h d`: the pipeline `s` of `c` on `h` awaits the reply `d`. -/
def Awaits (w : View) (s : PipelineId) (c : ComponentId) (h : HostId) (d : DeferredId) : Prop :=
  (w.component c).host = h ∧
    ∃ payload, w.pipeline s = some ⟨c, .awaiting (.awaiting d) payload, false⟩

/-- `w.Apart c h t`: the pipeline `t` has ended or was aborted, or belongs to another component on
another host. -/
def Apart (w : View) (c : ComponentId) (h : HostId) (t : PipelineId) : Prop :=
  ∀ pipe, w.pipeline t = some pipe →
    (pipe.aborted = true ∨ pipe.stage = .finished) ∨
      pipe.owner ≠ c ∧ (w.component pipe.owner).host ≠ h

/-- `w.Reserved s d`: `d` is not queued, and no pipeline other than `s` awaits it. -/
def Reserved (w : View) (s : PipelineId) (d : DeferredId) : Prop :=
  d ∉ w.transport.queued ∧ ∀ t pipe, w.pipeline t = some pipe → pipe.stage.reply? = some d → t = s

section Commute

variable {w : View} {s t u : PipelineId} {c : ComponentId} {h : HostId} {d : DeferredId}

/-- The poll of a pipeline that awaits a reply commutes with the poll of a pipeline that is `Apart`
from it. -/
theorem poll_comm (hs : w.Awaits s c h d) (hst : s ≠ t) (hapart : w.Apart c h t) :
    (w.poll s).poll t = (w.poll t).poll s := by
  cases hpipe' : w.pipeline t with
  | none =>
    rw [poll_of_none hpipe', poll_of_none]
    rwa [poll_pipeline_of_ne hst.symm]
  | some pipe' =>
    have hlater' : (w.poll s).pipeline t = some pipe' := by
      rwa [poll_pipeline_of_ne hst.symm]
    rcases hapart pipe' hpipe' with hstop | ⟨hc, hh⟩
    · rw [poll_of_stop hpipe' hstop, poll_update hst, poll_of_stop hlater' hstop]
    · obtain ⟨rfl, payload, hpipe⟩ := hs
      have hlater : (w.poll t).pipeline s =
          some ⟨c, .awaiting (.awaiting d) payload, false⟩ := by
        rwa [poll_pipeline_of_ne hst]
      have hask (v : MockTransport) :
          PipelineView.ask ⟨c, .awaiting (.awaiting d) payload, false⟩ v =
          v.pollFinding (.awaiting d) payload := PipelineView.ask_of_awaiting rfl rfl
      have htransport : (pipe'.ask w.transport).1.await d = w.transport.await d := by
        simp only [MockTransport.await, PipelineView.deferred_ask]
      -- neither poll changes the finding and the change of the other
      rw [poll_of_some hlater, poll_of_some hlater', poll_of_some hpipe, poll_of_some hpipe',
        change_put (change_fresh _) hc hh, change_put (change_fresh _) hc.symm hh.symm]
      simp only [put_transport, hask, MockTransport.pollFinding, MockTransport.poll, htransport]
      exact put_comm hst hc.symm hh.symm (change_fresh _) (change_fresh _)

theorem Awaits.poll (hs : w.Awaits s c h d) (hst : s ≠ t) : (w.poll t).Awaits s c h d := by
  refine ⟨poll_component_host.trans hs.1, ?_⟩
  rw [poll_pipeline_of_ne hst]
  exact hs.2

theorem Apart.poll (hu : w.Apart c h u) (t : PipelineId) : (w.poll t).Apart c h u := by
  intro pipe' hpipe'
  by_cases hut : u = t
  · subst hut
    cases hpipe : w.pipeline u with
    | none =>
      rw [poll_of_none hpipe, hpipe] at hpipe'
      cases hpipe'
    | some pipe =>
      rw [poll_pipeline_self hpipe] at hpipe'
      cases hpipe'
      rcases hu pipe hpipe with hstop | ⟨hc, hh⟩
      · rw [PipelineView.ask_of_stop hstop]
        exact .inl (.inr rfl)
      · exact .inr ⟨hc, by rwa [poll_component_host]⟩
  · rw [poll_pipeline_of_ne hut] at hpipe'
    rcases hu pipe' hpipe' with hstop | ⟨hc, hh⟩
    · exact .inl hstop
    · exact .inr ⟨hc, by rwa [poll_component_host]⟩

/-- The poll of a pipeline that awaits a reply commutes with polls that are `Apart` from it. -/
theorem polls_comm {l : List PipelineId} (hs : w.Awaits s c h d)
    (hl : ∀ t ∈ l, s ≠ t ∧ w.Apart c h t) :
    l.foldl View.poll (w.poll s) = (l.foldl View.poll w).poll s := by
  induction l generalizing w with
  | nil => rfl
  | cons t rest ih =>
    obtain ⟨hst, hapart⟩ := hl t (by simp)
    rw [List.foldl_cons, List.foldl_cons, poll_comm hs hst hapart]
    refine ih (hs.poll hst) fun u hu => ?_
    obtain ⟨hsu, hapart'⟩ := hl u (by simp [hu])
    exact ⟨hsu, hapart'.poll t⟩

/-- The stage after a change awaits a reply only if the finding is `wait`. -/
private theorem change_reply {a : Finding} (ha : (w.change c a).stage.reply? = some d) :
    ∃ payload, a = .wait (.awaiting d) payload := by
  have hsettle (deadline : Duration) (e : Change) : (w.settle deadline e).stage.reply? = none := by
    unfold settle
    split <;> rfl
  cases a with
  | stop => cases ha
  | wait call payload =>
    cases call with
    | unsent => cases ha
    | awaiting id =>
      cases ha
      exact ⟨payload, rfl⟩
  | sleep deadline =>
    rw [change, hsettle] at ha
    cases ha
  | ended response =>
    cases response <;> rw [change, hsettle] at ha <;> cases ha

theorem Reserved.poll (hs : w.Reserved s d) (hst : s ≠ t) : (w.poll t).Reserved s d := by
  obtain ⟨hqueued, hnobody⟩ := hs
  cases hpipe : w.pipeline t with
  | none =>
    rw [poll_of_none hpipe]
    exact ⟨hqueued, hnobody⟩
  | some pipe =>
    refine ⟨?_, fun u pipe' hpipe' hreply => ?_⟩
    · rw [poll_of_some hpipe]
      exact fun hd => hqueued (pipe.queued_ask _ hd)
    · by_cases hut : u = t
      · subst hut
        rw [poll_pipeline_self hpipe] at hpipe'
        cases hpipe'
        -- the reply that the pipeline awaits now is another one
        obtain ⟨payload, ha⟩ := change_reply hreply
        rcases PipelineView.ask_wait ha with hstage | hq
        · exact hnobody u pipe hpipe hstage
        · exact absurd hq hqueued
      · rw [poll_pipeline_of_ne hut] at hpipe'
        exact hnobody u pipe' hpipe' hreply

/-- `deliver` commutes with the poll of another pipeline. -/
theorem poll_deliver (hs : w.Reserved s d) (hst : s ≠ t) (outcome : Outcome) :
    (w.deliver d outcome).poll t = (w.poll t).deliver d outcome := by
  cases hpipe : w.pipeline t with
  | none => rw [poll_of_none hpipe, poll_of_none (w := w.deliver d outcome) hpipe]
  | some pipe =>
    have hchange (a : Finding) : (w.deliver d outcome).change pipe.owner a =
        w.change pipe.owner a := by
      cases a with
      | stop | wait | sleep => rfl
      | ended response => cases response <;> rfl
    have hask := PipelineView.ask_settle hs.1
      (fun hreply => hst (hs.2 t pipe hpipe hreply).symm) (.delivered outcome)
    rw [poll_of_some hpipe, poll_of_some (w := w.deliver d outcome) hpipe, hchange]
    simp only [deliver, hask]
    rfl

/-- `deliver` commutes with polls of other pipelines. -/
theorem polls_deliver {l : List PipelineId} (hs : w.Reserved s d) (hl : s ∉ l)
    (outcome : Outcome) :
    l.foldl View.poll (w.deliver d outcome) = (l.foldl View.poll w).deliver d outcome := by
  induction l generalizing w with
  | nil => rfl
  | cons t rest ih =>
    simp only [List.mem_cons, not_or] at hl
    rw [List.foldl_cons, List.foldl_cons, poll_deliver hs hl.1]
    exact ih (hs.poll hl.1) hl.2

end Commute

end View

end FormSwap
