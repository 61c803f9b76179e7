import Mathlib.Data.List.Nodup
import PythonAssist.Proofs.Engine.Discipline
import PythonAssist.Proofs.Schedule.Generations
import PythonAssist.Proofs.Session.Delivery

set_option autoImplicit false

namespace PythonAssist

variable {W : Type}

namespace Table

variable {K V : Type} [DecidableEq K]

theorem keys_erase_nodup {table : Table K V} (nodup : table.keys.Nodup) (key : K) :
    (table.erase key).keys.Nodup :=
  (List.filter_sublist.map Prod.fst).nodup nodup

theorem keys_insert_nodup {table : Table K V} (nodup : table.keys.Nodup) (key : K) (value : V) :
    (table.insert key value).keys.Nodup := by
  show (((table.erase key).entries ++ [(key, value)]).map Prod.fst).Nodup
  rw [List.map_append, List.nodup_append]
  refine ⟨keys_erase_nodup nodup key, by simp, ?_⟩
  intro other kept same added
  obtain ⟨entry, member, rfl⟩ := List.mem_map.mp kept
  rw [List.map_singleton, List.mem_singleton] at added
  rw [added]
  exact (mem_erase.mp member).2

theorem lookup_of_mem {key : K} {value : V} {entries : List (K × V)}
    (nodup : (entries.map Prod.fst).Nodup) (member : (key, value) ∈ entries) :
    lookup key entries = some value := by
  induction entries with
  | nil => cases member
  | cons entry rest ih =>
    obtain ⟨others, nodup⟩ := List.nodup_cons.mp nodup
    unfold lookup
    rcases List.mem_cons.mp member with rfl | later
    next => exact if_pos rfl
    next =>
      have different : entry.1 ≠ key := by
        rintro rfl
        exact others (List.mem_map.mpr ⟨_, later, rfl⟩)
      rw [if_neg different]
      exact ih nodup later

end Table

namespace Session

open Ledger ScriptCall

structure Owns (cache : HandleCache) (ledger : Ledger W) : Prop where
  kept : ledger.Kept
  held : ∀ script, Live ledger.calls script ↔
    ∃ uri handle, cache.find? uri = some handle ∧ handle.script = script
  apart : ∀ uri other handle held, cache.find? uri = some handle →
    cache.find? other = some held → handle.script = held.script → uri = other
  keys : cache.handles.keys.Nodup

namespace Owns

variable {engine : Engine W} {cache : HandleCache} {ledger : Ledger W}

theorem fresh (world : W) : Owns .empty (.fresh world) := by
  refine ⟨.fresh world, fun script => ?_, fun uri other handle held cached => ?_, by constructor⟩
  · constructor
    · rintro ⟨opened, -⟩
      cases opened
    · rintro ⟨uri, handle, cached, -⟩
      cases cached
  · cases cached

theorem same {after : Ledger W} (owns : Owns cache ledger) (calls : after.calls = ledger.calls)
    (sessions : after.sessions = ledger.sessions) : Owns cache after :=
  ⟨owns.kept.same calls sessions, calls ▸ owns.held, owns.apart, owns.keys⟩

theorem live (owns : Owns cache ledger) {uri : Uri} {handle : DocumentHandle}
    (cached : cache.find? uri = some handle) : Live ledger.calls handle.script :=
  (owns.held handle.script).mpr ⟨uri, handle, cached, rfl⟩

theorem ask {after : Ledger W} (owns : Owns cache ledger) {uri : Uri} {handle : DocumentHandle}
    (cached : cache.find? uri = some handle)
    (calls : after.calls = ledger.calls ++ [.asked handle.script])
    (sessions : after.sessions = ledger.sessions) : Owns cache after := by
  refine ⟨owns.kept.use (.asked handle.script) (owns.live cached) (by simp) calls sessions,
    fun script => ?_, owns.apart, owns.keys⟩
  rw [calls, live_asked]
  exact owns.held script

theorem evict (owns : Owns cache ledger) (uri : Uri) :
    Owns (cache.evict engine.recorded uri ledger).1 (cache.evict engine.recorded uri ledger).2 := by
  have found := fun key => find?_evict engine.recorded cache uri key ledger
  cases cached : cache.find? uri with
  | none =>
    have untouched : cache.evict engine.recorded uri ledger = (cache, ledger) := by
      simp [HandleCache.evict, cached]
    rw [untouched]
    exact owns
  | some gone =>
    have removed : cache.evict engine.recorded uri ledger =
        ({ handles := cache.handles.erase uri },
          engine.recorded.release gone.script ledger) := by
      simp [HandleCache.evict, cached]
    rw [removed] at found ⊢
    refine ⟨owns.kept.use (.released gone.script) (owns.live cached) (by simp) rfl rfl,
      fun script => ?_, fun key other handle held => ?_, Table.keys_erase_nodup owns.keys uri⟩
    · show Live (ledger.calls ++ [.released gone.script]) script ↔ _
      rw [live_released, owns.held]
      constructor
      · rintro ⟨⟨key, handle, here, rfl⟩, different⟩
        have elsewhere : key ≠ uri := by
          rintro rfl
          rw [cached] at here
          cases here
          exact different rfl
        exact ⟨key, handle, by rw [found, if_neg elsewhere, here], rfl⟩
      · rintro ⟨key, handle, here, rfl⟩
        rw [found] at here
        split at here
        next => cases here
        next elsewhere =>
          exact ⟨⟨key, handle, here, rfl⟩,
            fun same => elsewhere (owns.apart key uri handle gone here cached same)⟩
    · rw [found, found]
      intro here there
      split at here
      next => cases here
      split at there
      next => cases there
      exact owns.apart key other handle held here there

theorem insert {after : Ledger W} (owns : Owns cache ledger) {uri : Uri} {handle : DocumentHandle}
    (missing : cache.find? uri = none) {entry : ScriptId × String}
    (script : handle.script = ledger.sessions.length)
    (calls : after.calls = ledger.calls ++ [.opened handle.script])
    (sessions : after.sessions = ledger.sessions ++ [entry]) :
    Owns { handles := cache.handles.insert uri handle } after := by
  have found : ∀ key, HandleCache.find? { handles := cache.handles.insert uri handle } key =
      if key = uri then some handle else cache.find? key :=
    fun key => Table.find?_insert cache.handles key uri handle
  have unheld : ∀ key held, cache.find? key = some held → held.script ≠ handle.script := by
    intro key held cached same
    have opened := (owns.live cached).1
    rw [same, script] at opened
    exact owns.kept.next_fresh opened
  rw [script] at calls
  refine ⟨owns.kept.openNext calls sessions, fun other => ?_, fun key other one two => ?_,
    Table.keys_insert_nodup owns.keys uri handle⟩
  · rw [calls, live_opened owns.kept.disciplined owns.kept.next_fresh, owns.held, ← script]
    constructor
    · rintro (⟨key, held, cached, rfl⟩ | rfl)
      · have elsewhere : key ≠ uri := by
          rintro rfl
          rw [missing] at cached
          cases cached
        exact ⟨key, held, by rw [found, if_neg elsewhere, cached], rfl⟩
      · exact ⟨uri, handle, by rw [found, if_pos rfl], rfl⟩
    · rintro ⟨key, held, cached, rfl⟩
      rw [found] at cached
      split at cached
      next =>
        cases cached
        exact .inr rfl
      next => exact .inl ⟨key, held, cached, rfl⟩
  · rw [found, found]
    intro here there same
    split at here <;> split at there
    next here_new there_new => exact here_new.trans there_new.symm
    next =>
      cases here
      exact absurd same.symm (unheld other two there)
    next =>
      cases there
      exact absurd same (unheld key one here)
    next => exact owns.apart key other one two here there same

theorem release_all (handles : List DocumentHandle) (ledger : Ledger W) (kept : ledger.Kept)
    (nodup : (handles.map DocumentHandle.script).Nodup)
    (live : ∀ script, Live ledger.calls script ↔ script ∈ handles.map DocumentHandle.script) :
    let after := handles.foldl (fun ledger handle => engine.recorded.release handle.script ledger)
      ledger
    after.Kept ∧ ∀ script, ¬ Live after.calls script := by
  induction handles generalizing ledger with
  | nil => exact ⟨kept, fun script alive => by simpa using (live script).mp alive⟩
  | cons handle rest ih =>
    obtain ⟨others, nodup⟩ := List.nodup_cons.mp nodup
    have here : Live ledger.calls handle.script := (live _).mpr (by simp)
    apply ih (engine.recorded.release handle.script ledger)
      (kept.use (.released handle.script) here (by simp) rfl rfl) nodup
    intro script
    show Live (ledger.calls ++ [.released handle.script]) script ↔ _
    rw [live_released, live, List.map_cons, List.mem_cons]
    constructor
    · rintro ⟨rfl | member, different⟩
      · exact absurd rfl different
      · exact member
    · intro member
      exact ⟨.inr member, fun same => others (same ▸ member)⟩

theorem clear (owns : Owns cache ledger) :
    Owns (cache.clear engine.recorded ledger).1 (cache.clear engine.recorded ledger).2 := by
  have listed (key : Uri) (handle : DocumentHandle) :
      (key, handle) ∈ cache.handles.entries ↔ cache.find? key = some handle :=
    ⟨Table.lookup_of_mem owns.keys, Table.mem_of_lookup⟩
  have live (script : ScriptId) : Live ledger.calls script ↔
      script ∈ cache.handles.values.map DocumentHandle.script := by
    rw [owns.held]
    simp [Table.values, listed]
  have nodup : (cache.handles.values.map DocumentHandle.script).Nodup := by
    rw [Table.values, List.map_map]
    refine (List.Nodup.of_map _ owns.keys).map_on ?_
    rintro ⟨key, handle⟩ here ⟨other, held⟩ there same
    obtain rfl := owns.apart key other handle held ((listed _ _).mp here) ((listed _ _).mp there)
      same
    have one := (listed _ _).mp here
    rw [(listed _ _).mp there] at one
    cases one
    rfl
  obtain ⟨kept, none_live⟩ := release_all cache.handles.values _ owns.kept nodup live
  refine ⟨kept, fun script => ?_, fun uri other handle held cached => ?_, by constructor⟩
  · constructor
    · exact fun alive => absurd alive (none_live script)
    · rintro ⟨uri, handle, cached, -⟩
      cases cached
  · cases cached

end Owns

section Sharing

variable {engine : Engine W} {sharing : HandleCache → W → Prop}

def Shares (sharing : HandleCache → W → Prop) (session : Session W) : Prop :=
  sharing session.handles session.world

theorem Validates.shares
    (moved : ∀ uri before after, Move engine uri before after → Shares sharing before →
      Shares sharing after)
    {uri : Uri} {ok : Bool} {session after : Session W}
    (validates : Validates engine uri session ok after) (shares : Shares sharing session) :
    Shares sharing after := by
  have all {last : Session W} (moves : Moves engine uri session last) : Shares sharing last := by
    induction moves with
    | refl => exact shares
    | tail _ move ih => exact moved _ _ _ move ih
  cases validates with
  | failed _ moves => exact all moves
  | concluded middle _ moves concludes =>
    have same : after.handles = middle.handles ∧ after.world = middle.world := by
      cases concludes <;> exact ⟨rfl, rfl⟩
    rw [Shares, same.1, same.2]
    exact all moves

theorem ValidatesEach.shares
    (moved : ∀ uri before after, Move engine uri before after → Shares sharing before →
      Shares sharing after)
    {uris : List Uri} {session after : Session W}
    (validates : ValidatesEach engine uris session after) (shares : Shares sharing session) :
    Shares sharing after := by
  induction validates with
  | done => exact shares
  | next _ _ _ _ _ _ first _ ih => exact ih (first.shares moved shares)

theorem Delivers.shares
    (moved : ∀ uri before after, Move engine uri before after → Shares sharing before →
      Shares sharing after)
    (cleared : ∀ cache world, sharing cache world →
      sharing (cache.clear engine world).1 (cache.clear engine world).2)
    {message : EditorMessage} {ok : Bool} {session after : Session W}
    (delivers : Delivers engine session message ok after) (shares : Shares sharing session) :
    Shares sharing after := by
  have dropped (uri : Uri) (before : Session W) (kept : Shares sharing before) :
      Shares sharing (dropHandle engine uri before) :=
    moved uri before _ (.evicted before) kept
  cases delivers with
  | answered _ _ _ moves => exact Validates.shares moved (.failed _ moves) shares
  | opened item _ _ validates => exact validates.shares moved (dropped item.uri _ shares)
  | changed uri _ _ _ _ _ _ moves =>
    exact Validates.shares moved (.failed _ moves) (dropped uri _ shares)
  | closed uri => exact dropped uri _ shares
  | saved _ _ _ _ validates => exact validates.shares moved shares
  | savedText uri _ _ _ _ _ validates => exact validates.shares moved (dropped uri _ shares)
  | configured _ _ _ _ _ _ validates => exact validates.shares moved shares
  | stopped => exact cleared _ _ shares
  | _ => exact shares

end Sharing

theorem Move.owns {engine : Engine W} {uri : Uri} {session after : Session (Ledger W)}
    (move : Move engine.recorded uri session after) (owns : Shares Owns session) :
    Shares Owns after := by
  cases move with
  | evicted => exact Owns.evict owns uri
  | opened document script world missing found opens =>
    rcases open_recorded engine document.text document.path session.world with
      ⟨cause, failed, -⟩ | ⟨inner, opened, sessions, calls⟩
    next => simp [opens] at failed
    next =>
      rw [opens] at opened sessions calls
      cases opened
      exact Owns.insert owns missing rfl calls sessions
  | unopened document cause world opens =>
    rcases open_recorded engine document.text document.path session.world with
      ⟨_, -, sessions, calls⟩ | ⟨inner, opened, -⟩
    next =>
      rw [opens] at sessions calls
      exact Owns.same owns calls sessions
    next => simp [opens] at opened
  | asked handle world cached asks =>
    obtain ⟨sessions, calls⟩ := asks_recorded asks
    exact Owns.ask owns cached calls sessions
  | consulted world consults =>
    obtain ⟨sessions, calls⟩ := consults_recorded consults
    exact Owns.same owns calls sessions
  | derived => exact owns

end Session

end PythonAssist
