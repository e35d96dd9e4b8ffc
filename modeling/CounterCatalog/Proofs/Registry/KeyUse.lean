import CounterCatalog.Proofs.Registry.Key

set_option autoImplicit false

/-!
# The use of keys

A key that was opened is queried through its handle and closed once, and nothing touches the
handle afterwards. `KeyUse` says so of the calls of one use. `heldAfter` keeps the account over any
number of uses: it goes on only while every handle that is used is held, and ends with those that
are still to be closed.
-/
namespace CounterCatalog

open Query

def Call.Queries (handle : Int) (call : Call) : Prop :=
  ∃ r : ValueRequest, call = .queryValue r ∧ r.handle = handle

namespace Registry

/-- The registry calls of one use of a key below the local machine: none at all, an open that is
refused, or all calls from an open to the close of the handle that it gave. -/
inductive KeyUse : List Exchange → Prop where
  | unused : KeyUse []
  | refused (key : String) (access : UInt32) (reply : OpenReply) (status : reply.status ≠ 0) :
      KeyUse [⟨.openKey localMachine key access, reply⟩]
  | closed (key : String) (access : UInt32) (reply : OpenReply) (status : reply.status = 0)
      (queries : List Exchange) (own : ∀ e ∈ queries, e.call.Queries reply.handle)
      (closing : UInt32) :
      KeyUse (⟨.openKey localMachine key access, reply⟩ ::
        (queries ++ [⟨.closeKey reply.handle, closing⟩]))

/-- What is held behind an exchange; nothing if the exchange uses a handle that is not held. -/
def holding (held : List Int) : Exchange → Option (List Int)
  | ⟨.openKey parent _ _, reply⟩ =>
    if parent = localMachine ∨ parent ∈ held then
      some (if reply.status = 0 then reply.handle :: held else held)
    else none
  | ⟨.queryValue r, _⟩ => if r.handle ∈ held then some held else none
  | ⟨.closeKey handle, _⟩ => if handle ∈ held then some (held.erase handle) else none
  | _ => some held

def heldAfter (held : List Int) (es : List Exchange) : Option (List Int) := es.foldlM holding held

def handedOut : Exchange → Option Int
  | ⟨.openKey _ _ _, reply⟩ => if reply.status = 0 then some reply.handle else none
  | _ => none

def handedIn : Exchange → Option Int
  | ⟨.closeKey handle, _⟩ => some handle
  | _ => none

def openedHandles (es : List Exchange) : List Int := es.filterMap handedOut

def closedHandles (es : List Exchange) : List Int := es.filterMap handedIn

theorem heldAfter_append (held : List Int) (es fs : List Exchange) :
    heldAfter held (es ++ fs) = (heldAfter held es).bind fun next => heldAfter next fs :=
  List.foldlM_append

theorem openedHandles_append (es fs : List Exchange) :
    openedHandles (es ++ fs) = openedHandles es ++ openedHandles fs := List.filterMap_append

theorem closedHandles_append (es fs : List Exchange) :
    closedHandles (es ++ fs) = closedHandles es ++ closedHandles fs := List.filterMap_append

section Queries
variable {handle : Int} {queries : List Exchange}
  (own : ∀ e ∈ queries, e.call.Queries handle)

include own

theorem heldAfter_queries (held : List Int) :
    heldAfter (handle :: held) queries = some (handle :: held) := by
  induction queries with
  | nil => rfl
  | cons e queries ih =>
    obtain ⟨call, reply⟩ := e
    obtain ⟨r, rfl, same⟩ := own _ List.mem_cons_self
    have here : holding (handle :: held) ⟨.queryValue r, reply⟩ = some (handle :: held) :=
      if_pos (by rw [same]; exact List.mem_cons_self)
    rw [heldAfter, List.foldlM_cons, here]
    exact ih fun e he => own e (List.mem_cons_of_mem _ he)

theorem openedHandles_queries : openedHandles queries = [] := by
  apply List.filterMap_eq_nil_iff.mpr
  rintro ⟨call, reply⟩ he
  obtain ⟨r, rfl, -⟩ := own _ he
  rfl

theorem closedHandles_queries : closedHandles queries = [] := by
  apply List.filterMap_eq_nil_iff.mpr
  rintro ⟨call, reply⟩ he
  obtain ⟨r, rfl, -⟩ := own _ he
  rfl

end Queries

theorem KeyUse.heldAfter {es : List Exchange} (h : KeyUse es) (held : List Int) :
    heldAfter held es = some held := by
  cases h with
  | unused => rfl
  | refused key access reply status =>
    rw [Registry.heldAfter, List.foldlM_cons, holding, if_pos (.inl rfl), if_neg status]
    rfl
  | closed key access reply status queries own closing =>
    rw [Registry.heldAfter, List.foldlM_cons, holding, if_pos (.inl rfl), if_pos status]
    change Registry.heldAfter (reply.handle :: held) _ = _
    rw [heldAfter_append, heldAfter_queries own]
    change (if reply.handle ∈ reply.handle :: held then some _ else none) >>= _ = _
    rw [if_pos List.mem_cons_self, List.erase_cons_head]
    rfl

theorem KeyUse.opened_eq_closed {es : List Exchange} (h : KeyUse es) :
    openedHandles es = closedHandles es := by
  cases h with
  | unused => rfl
  | refused key access reply status =>
    have none : handedOut ⟨.openKey localMachine key access, reply⟩ = none := if_neg status
    rw [openedHandles, List.filterMap_cons_none none]
    rfl
  | closed key access reply status queries own closing =>
    have some : handedOut ⟨.openKey localMachine key access, reply⟩ = some reply.handle :=
      if_pos status
    rw [openedHandles, closedHandles, List.filterMap_cons_some some, List.filterMap_cons_none rfl]
    change reply.handle :: openedHandles _ = closedHandles _
    rw [openedHandles_append, closedHandles_append, openedHandles_queries own,
      closedHandles_queries own]
    rfl

theorem keyUses_balanced {uses : List (List Exchange)} (h : ∀ es ∈ uses, KeyUse es)
    (held : List Int) :
    heldAfter held uses.flatten = some held ∧
      openedHandles uses.flatten = closedHandles uses.flatten := by
  induction uses with
  | nil => exact ⟨rfl, rfl⟩
  | cons es uses ih =>
    have here := h es List.mem_cons_self
    obtain ⟨account, paired⟩ := ih fun es he => h es (List.mem_cons_of_mem _ he)
    rw [List.flatten_cons, heldAfter_append, openedHandles_append, closedHandles_append,
      here.heldAfter, here.opened_eq_closed, paired]
    exact ⟨account, rfl⟩

end Registry

end CounterCatalog
