import AccessCatalog.Okta.Roles
import AccessCatalog.Proofs.Okta.Calls
import AccessCatalog.Proofs.Paging.Token

/-! Listings page by page. A caller starts with a token and hands back the token of each page until
one is empty. Where every page but the last leads to a further one, the calls go through all pages
of a phase in order, and end with the token of what comes behind it. -/
namespace AccessCatalog

namespace Web

/-- A service that, asked these requests in this order, gives each the response beside it. -/
def Answers {σ : Type} (service : Service σ) : List (Request × Response) → σ → Prop
  | [], _ => True
  | (r, response) :: rest, state =>
    ∃ next, service r state = (.response response, next) ∧ Answers service rest next

def scripted : Service (List Response)
  | _, [] => (.unreachable, [])
  | _, response :: rest => (.response response, rest)

theorem answers_scripted (exchanges : List (Request × Response)) :
    Answers scripted exchanges (exchanges.map (·.2)) := by
  induction exchanges with
  | nil => trivial
  | cons e rest ih => exact ⟨_, rfl, ih⟩

end Web

namespace Okta

open Web (Request Response Service Answers)

variable {σ α β : Type} {decode : Json → Option β}

/-- A tenant whose service gives the responses of a list, one after another. -/
def Setting.scripted (tenant : Tenant) : Setting (List Response) :=
  { tenant, service := Web.scripted, now := ⟨0, 0, 0⟩, draws := fun _ => 0 }

/-- Calls in a row: the first is made with a token, each other with the token of the page before,
which is not empty. -/
inductive Run (call : PageRequest → Call σ Fault (Page α)) (size : Nat) :
    String → Session σ → List (Page α) → String → Session σ → Prop where
  | last {token : String} {session after : Session σ} {page : Page α} :
    call ⟨size, token⟩ session = (.ok page, after) →
      Run call size token session [page] page.nextToken after
  | more {token final : String} {session between after : Session σ} {page : Page α}
      {pages : List (Page α)} :
    call ⟨size, token⟩ session = (.ok page, between) → page.nextToken ≠ "" →
      Run call size page.nextToken between pages final after →
        Run call size token session (page :: pages) final after

theorem Run.append {call : PageRequest → Call σ Fault (Page α)} {size : Nat}
    {token middle final : String} {session between after : Session σ}
    {front back : List (Page α)} (first : Run call size token session front middle between)
    (goesOn : middle ≠ "") (second : Run call size middle between back final after) :
    Run call size token session (front ++ back) final after := by
  induction first with
  | last called => exact .more called goesOn second
  | more called continued _ ih => exact .more called continued (ih goesOn second)

/-- The requests for pages with their responses: the first at a cursor, each other at the cursor
that the response before it has. -/
def exchanges (request : String → Request) (cursor : Answer decode → String) :
    String → List (Answer decode) → List (Request × Response)
  | _, [] => []
  | c, a :: rest => (request c, a.response) :: exchanges request cursor (cursor a) rest

/-- Each request after the first carries the cursor of the response before it and no other. -/
theorem exchanges_values {request : String → Request} {cursor : Answer decode → String}
    {name : String} (carries : ∀ c, (request c).values name = if c = "" then [] else [c])
    {front : List (Answer decode)} (continued : ∀ a ∈ front, cursor a ≠ "")
    (last : Answer decode) :
    (exchanges request cursor "" (front ++ [last])).map (fun e => e.1.values name) =
      [] :: front.map fun a => [cursor a] := by
  have run : ∀ (front : List (Answer decode)) (c : String), (∀ a ∈ front, cursor a ≠ "") →
      (exchanges request cursor c (front ++ [last])).map (fun e => e.1.values name) =
        (if c = "" then [] else [c]) :: front.map fun a => [cursor a] := by
    intro front
    induction front with
    | nil => simp [exchanges, carries]
    | cons a rest ih =>
      intro c continued
      have here := continued a List.mem_cons_self
      have tail := ih (cursor a) fun b member => continued b (List.mem_cons_of_mem _ member)
      simp only [List.cons_append, exchanges, List.map_cons, carries, tail, here, if_false]
  exact run front "" continued

/-- The pages of a listing: each but the last names the cursor of the next one. -/
structure Pages (decode : Json → Option β) (cursor : Answer decode → String) where
  front : List (Answer decode)
  last : Answer decode
  continued : ∀ a ∈ front, cursor a ≠ ""
  ended : cursor last = ""

def Pages.all {cursor : Answer decode → String} (p : Pages decode cursor) : List (Answer decode) :=
  p.front ++ [p.last]

/-- One phase of a listing: a call that, at a cursor, asks for one page, and perhaps for more that
the page needs, which depends on what is known by then. -/
structure Phase (service : Service σ) (decode : Json → Option β) (α κ : Type) where
  call : PageRequest → Call σ Fault (Page α)
  size : Nat
  request : String → Request
  cursor : Answer decode → String
  items : Answer decode → List α
  /-- What is asked for behind a page. -/
  extra : κ → Answer decode → List (Request × Response)
  learn : κ → Answer decode → κ
  Knows : Session σ → κ → Prop
  /-- Whether a token stands at a cursor of the phase. -/
  At : String → String → Prop
  token : String → String
  /-- The token behind the last page. -/
  done : String
  token_at : ∀ c, token c ≠ "" ∧ At (token c) c
  step : ∀ {tok c : String} {known : κ} {session : Session σ} (a : Answer decode)
    {rest : List (Request × Response)}, At tok c → Knows session known →
    Answers service ((request c, a.response) :: extra known a ++ rest) session.service →
    ∃ page after, call ⟨size, tok⟩ session = (.ok page, after) ∧ page.items = items a ∧
      page.nextToken = (if cursor a = "" then done else token (cursor a)) ∧
      after.sent = session.sent ++ ((request c, a.response) :: extra known a).map (·.1) ∧
      Knows after (learn known a) ∧ Answers service rest after.service

/-- A call that asks for its page and nothing else, seen as a step of a phase. -/
theorem page_step (call : PageRequest → Call σ Fault (Page α)) {service : Service σ} {size : Nat}
    {tok c : String} {further done : Bag} {items : List α} {session : Session σ} {r : Request}
    {response : Response} {rest : List (Request × Response)}
    (called : ∀ state, service r session.service = (.response response, state) →
      ∃ notes, call ⟨size, tok⟩ session =
        (.ok ⟨items, (if c = "" then done else further).token, notes⟩, session.asked r state))
    (answers : Answers service ((r, response) :: rest) session.service) :
    ∃ page after, call ⟨size, tok⟩ session = (.ok page, after) ∧ page.items = items ∧
      page.nextToken = (if c = "" then done.token else further.token) ∧
      after.sent = session.sent ++ [r] ∧ after.flags = session.flags ∧
      Answers service rest after.service := by
  obtain ⟨state, answered, remaining⟩ := answers
  obtain ⟨notes, called⟩ := called state answered
  rw [apply_ite Bag.token] at called
  exact ⟨_, _, called, rfl, rfl, rfl, rfl, remaining⟩

namespace Phase

variable {service : Service σ} {κ : Type} (φ : Phase service decode α κ)

def extras : κ → List (Answer decode) → List (List (Request × Response))
  | _, [] => []
  | known, a :: rest => φ.extra known a :: extras (φ.learn known a) rest

/-- All requests for pages from a cursor on, each with what is asked for behind the page. -/
def script (known : κ) (c : String) (pages : List (Answer decode)) : List (Request × Response) :=
  (List.zipWith List.cons (exchanges φ.request φ.cursor c pages) (φ.extras known pages)).flatten

theorem script_of_no_extra (nothing : ∀ known a, φ.extra known a = []) (known : κ) (c : String)
    (pages : List (Answer decode)) :
    φ.script known c pages = exchanges φ.request φ.cursor c pages := by
  unfold script
  induction pages generalizing known c with
  | nil => rfl
  | cons a rest ih => simp [exchanges, extras, nothing, ih]

/-- The calls go through all pages of the phase, and leave the service where the rest begins. -/
theorem run {front : List (Answer decode)} (continued : ∀ a ∈ front, φ.cursor a ≠ "")
    {last : Answer decode} (ended : φ.cursor last = "") {tok c : String} {known : κ}
    {session : Session σ} {rest : List (Request × Response)} (stands : φ.At tok c)
    (knows : φ.Knows session known)
    (answers : Answers service (φ.script known c (front ++ [last]) ++ rest) session.service) :
    ∃ pages after, Run φ.call φ.size tok session pages φ.done after ∧
      pages.map (·.items) = (front ++ [last]).map φ.items ∧
      after.sent = session.sent ++ (φ.script known c (front ++ [last])).map (·.1) ∧
      Answers service rest after.service := by
  -- A step hands on that the next token stands at the next cursor, and what is known by then.
  induction front generalizing tok c known session with
  | nil =>
    have only : φ.script known c [last] = (φ.request c, last.response) :: φ.extra known last := by
      simp [script, exchanges, extras]
    rw [List.nil_append, only] at answers ⊢
    obtain ⟨page, after, called, items, next, sent, _, remaining⟩ :=
      φ.step last stands knows answers
    rw [if_pos ended] at next
    exact ⟨[page], after, next ▸ .last called, by simp [items], sent, remaining⟩
  | cons a front ih =>
    have unfolded : φ.script known c (a :: front ++ [last]) =
        (φ.request c, a.response) :: φ.extra known a ++
          φ.script (φ.learn known a) (φ.cursor a) (front ++ [last]) := by
      simp [script, exchanges, extras]
    rw [unfolded] at answers ⊢
    rw [List.append_assoc] at answers
    obtain ⟨page, between, called, items, next, sent, knows, remaining⟩ :=
      φ.step a stands knows answers
    have here := continued a List.mem_cons_self
    rw [if_neg here] at next
    obtain ⟨filled, stands⟩ := φ.token_at (φ.cursor a)
    obtain ⟨pages, after, run, others, sentBehind, remaining⟩ :=
      ih (fun b member => continued b (List.mem_cons_of_mem _ member)) stands knows remaining
    refine ⟨page :: pages, after, .more called (next ▸ filled) (next ▸ run), ?_, ?_, remaining⟩
    · simp [items, others]
    · rw [sentBehind, sent, List.map_append, List.append_assoc]

end Phase
end Okta
end AccessCatalog
