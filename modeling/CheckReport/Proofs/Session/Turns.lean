/-
Desks whose world changes from outside as well.

A turn is a move at a desk or a change of the world that no call makes, such as the passing of time. What happens in a
list of turns is a timeline: the events of all moves and the changes between them, in the order in which they take
place. Changes are of any kind `δ`; `change` says what one does to the world.

- `moments_append`, `replay_append`: timelines are put one behind the other.
- `turns_told`: the timeline of a desk tells what every call was answered and what became of the world.
-/
import CheckReport.Proofs.Session.Desk

namespace CheckReport

open Session (Event Services)

/-- one turn at a desk -/
inductive Desk.Turn (δ : Type) where
  | move (move : Desk.Move)
  | change (what : δ)

/-- one thing that happens in a turn -/
inductive Happening (δ : Type) where
  | event (event : Event)
  | change (what : δ)

variable {σ δ : Type} (services : Services σ) (change : δ → σ → σ)

namespace Happening

def after (world : σ) : Happening δ → σ
  | .event e => services.after world e
  | .change what => change what world

/-- an event tells what its call was answered; a change is no call -/
def Answers (world : σ) : Happening δ → Prop
  | .event e => services.Answers world e
  | .change _ => True

end Happening

/-! ## Timelines -/

namespace Timeline

/-- the world behind a timeline -/
def replay (world : σ) (timeline : List (Happening δ)) : σ := timeline.foldl (Happening.after services change) world

/-- what happens in a timeline, each with the world in which it happens -/
def moments : σ → List (Happening δ) → List (σ × Happening δ)
  | _, [] => []
  | world, happening :: later => (world, happening) :: moments (happening.after services change world) later

/-- every event tells what its call was answered -/
def Told (world : σ) (timeline : List (Happening δ)) : Prop :=
  ∀ moment ∈ moments services change world timeline, moment.2.Answers services moment.1

theorem replay_append (world : σ) (first later : List (Happening δ)) :
    replay services change world (first ++ later) =
      replay services change (replay services change world first) later :=
  List.foldl_append ..

theorem moments_append (world : σ) (first later : List (Happening δ)) :
    moments services change world (first ++ later) =
      moments services change world first ++ moments services change (replay services change world first) later := by
  induction first generalizing world with
  | nil => rfl
  | cons happening first ih => exact congrArg ((world, happening) :: ·) (ih (happening.after services change world))

theorem moments_concat (world : σ) (past : List (Happening δ)) (last : Happening δ) :
    moments services change world (past ++ [last]) =
      moments services change world past ++ [(replay services change world past, last)] :=
  moments_append services change world past [last]

variable {services change}

theorem told_append {world : σ} {first later : List (Happening δ)} :
    Told services change world (first ++ later) ↔
      Told services change world first ∧ Told services change (replay services change world first) later := by
  unfold Told
  rw [moments_append, List.forall_mem_append]

theorem told_of_prefix {world : σ} {past timeline : List (Happening δ)} (h : past <+: timeline)
    (told : Told services change world timeline) : Told services change world past := by
  obtain ⟨later, rfl⟩ := h
  exact (told_append.1 told).1

variable (services change)

/-- the trace of a move as a timeline -/
theorem told_events {world : σ} {trace : List Event} (answers : services.AnswersAll world trace) :
    Told services change world (trace.map .event) ∧
      replay services change world (trace.map .event) = services.replay world trace := by
  induction trace generalizing world with
  | nil => exact ⟨fun _ h => (List.not_mem_nil h).elim, rfl⟩
  | cons event trace ih =>
    obtain ⟨told, same⟩ := ih answers.2
    exact ⟨List.forall_mem_cons.2 ⟨answers.1, told⟩, same⟩

end Timeline

/-! ## Turns at a desk -/

namespace Desk

/-- a turn, and what happens in it -/
def turn (desk : Desk σ) : Turn δ → Desk σ × List (Happening δ)
  | .move move =>
    let (_, after, trace) := desk.step services move
    (after, trace.map .event)
  | .change what => ({ desk with world := change what desk.world }, [.change what])

/-- one turn after another -/
def turns (desk : Desk σ) : List (Turn δ) → Desk σ × List (Happening δ)
  | [] => (desk, [])
  | first :: rest =>
    let (after, timeline) := desk.turn services change first
    let (last, later) := turns after rest
    (last, timeline ++ later)

theorem turn_told (desk : Desk σ) (turn : Turn δ) :
    Timeline.Told services change desk.world (desk.turn services change turn).2 ∧
      Timeline.replay services change desk.world (desk.turn services change turn).2 =
        (desk.turn services change turn).1.world := by
  cases turn with
  | move move =>
    obtain ⟨answers, replays⟩ := step_told services desk move
    obtain ⟨told, same⟩ := Timeline.told_events services change answers
    exact ⟨told, same.trans replays⟩
  | change what => exact ⟨List.forall_mem_singleton.2 trivial, rfl⟩

/-- **The timeline tells the truth.** -/
theorem turns_told (desk : Desk σ) (turns : List (Turn δ)) :
    Timeline.Told services change desk.world (desk.turns services change turns).2 ∧
      Timeline.replay services change desk.world (desk.turns services change turns).2 =
        (desk.turns services change turns).1.world := by
  induction turns generalizing desk with
  | nil => exact ⟨fun _ h => (List.not_mem_nil h).elim, rfl⟩
  | cons first rest ih =>
    obtain ⟨told, replays⟩ := turn_told services change desk first
    obtain ⟨later, last⟩ := ih (desk.turn services change first).1
    rw [← replays] at later last
    exact ⟨Timeline.told_append.2 ⟨told, later⟩, (Timeline.replay_append ..).trans last⟩

end Desk

end CheckReport
