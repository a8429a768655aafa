import Rsfu.GuardedRun
import Rsfu.SessionRegistry

/-! One session for an id. A join looks the session up and adds its peer later;
when that session has been closed in between, the peer is alone in it. -/
namespace Rsfu
open GuardedRun TaskTable

/-- The peer is in the map. -/
def RegisteredSession.Has (s : RegisteredSession) (p : Nat) : Prop := ∃ id, (id, p) ∈ s.peers

theorem RegisteredSession.insertPeer_has {s : RegisteredSession} {id : String} {p q : Nat} :
    (s.insertPeer id p).Has q ↔ q = p ∨ ∃ id', id' ≠ id ∧ (id', q) ∈ s.peers := by
  constructor
  · rintro ⟨id', mem⟩
    rcases List.mem_append.mp mem with old | new
    · exact Or.inr ⟨id', of_decide_eq_true (List.mem_filter.mp old).2, (List.mem_filter.mp old).1⟩
    · exact Or.inl (congrArg Prod.snd (List.mem_singleton.mp new))
  · rintro (rfl | ⟨id', other, mem⟩)
    · exact ⟨id, List.mem_append_right _ (List.mem_singleton_self _)⟩
    · exact ⟨id', List.mem_append_left _ (List.mem_filter.mpr ⟨mem, decide_eq_true other⟩)⟩

theorem RegisteredSession.deletePeer_has {s : RegisteredSession} {id : String} {q : Nat} :
    (s.deletePeer id).Has q ↔ ∃ id', id' ≠ id ∧ (id', q) ∈ s.peers := by
  constructor
  · rintro ⟨id', mem⟩
    exact ⟨id', of_decide_eq_true (List.mem_filter.mp mem).2, (List.mem_filter.mp mem).1⟩
  · rintro ⟨id', other, mem⟩
    exact ⟨id', List.mem_filter.mpr ⟨mem, decide_eq_true other⟩⟩

/-- The points at which a join holds the provider. -/
def JoinPoint.holds : JoinPoint → Bool
  | .checked | .named | .returned => false
  | _ => true

namespace SessionRegistry

/-- The peers are in the map of one session, which is open and registered under the id. -/
def Together (g : SessionRegistry) (sid : String) (p q : Nat) : Prop :=
  ∃ i s, g.sessions sid = some i ∧ g.created[i]? = some s ∧ s.closed = false ∧ s.Has p ∧ s.Has q

def OneSession (g : SessionRegistry) : Prop :=
  ∀ p q sid, (p, sid) ∈ g.joined → (q, sid) ∈ g.joined → g.Together sid p q

/-- The session is of the id, and no other one is registered under it. -/
def Current (g : SessionRegistry) (i : Nat) (sid : String) : Prop :=
  (∃ s, g.created[i]? = some s ∧ s.id = sid) ∧ (g.sessions sid = none ∨ g.sessions sid = some i)

def PointFits (g : SessionRegistry) (sid : String) : JoinPoint → Prop
  | .missing => g.sessions sid = none
  | .found i | .entered i | .adding i _ => g.Current i sid
  | _ => True

def JoinFits (g : SessionRegistry) (k : Nat) (c : JoinCall) : Prop :=
  c.point.holds = true → g.provider = some k ∧ g.PointFits c.sid c.point

/-- A session that is being closed has no peers, and its lock is held. -/
def LeaveFits (g : SessionRegistry) (k : Nat) (c : LeaveCall) : Prop :=
  c.point = .closing ∨ c.point = .unregistering →
    ∃ s, g.created[c.session]? = some s ∧ s.peersLock = some k ∧ s.peers = []

/-- A session is registered under its own id, and not after it was closed. -/
structure Registered (g : SessionRegistry) : Prop where
  named : ∀ sid i, g.sessions sid = some i → ∃ s, g.created[i]? = some s ∧ s.id = sid
  closed : ∀ (i : Nat) s, g.created[i]? = some s → s.closed = true → s.peersLock = none → g.sessions s.id ≠ some i
  one : g.OneSession

structure Settled (g : SessionRegistry) : Prop where
  joins : ∀ (k : Nat) c, g.joins[k]? = some c → g.JoinFits k c
  leaves : ∀ (k : Nat) c, g.leaves[k]? = some c → g.LeaveFits k c
  registered : g.Registered

theorem Registered.congr {g g' : SessionRegistry} (inv : g.Registered) (sessions : g'.sessions = g.sessions)
    (created : g'.created = g.created) (joined : g'.joined = g.joined) : g'.Registered := by
  obtain ⟨sessions', created', _, _, _, _, joined'⟩ := g'
  cases sessions
  cases created
  cases joined
  exact ⟨inv.named, inv.closed, inv.one⟩

theorem JoinFits.idle {g g' : SessionRegistry} {k : Nat} {c : JoinCall} (fits : g.JoinFits k c)
    (free : g.provider ≠ some k) : g'.JoinFits k c :=
  fun holds => absurd (fits holds).1 free

theorem setSession_self {g : SessionRegistry} {i : Nat} {s : RegisteredSession} (s' : RegisteredSession)
    (found : g.created[i]? = some s) : (g.setSession i s').created[i]? = some s' := by
  rw [show (g.setSession i s').created = g.created.set i s' from rfl, lookup_set found, if_pos rfl]

theorem setSession_other {g : SessionRegistry} {i j : Nat} {s t : RegisteredSession} (s' : RegisteredSession)
    (found : g.created[i]? = some s) (other : i ≠ j) (h : g.created[j]? = some t) :
    (g.setSession i s').created[j]? = some t := by
  rw [show (g.setSession i s').created = g.created.set i s' from rfl, lookup_set found, if_neg other, h]

theorem setSession_named {g : SessionRegistry} {i j : Nat} {s s' : RegisteredSession} {sid : String}
    (found : g.created[i]? = some s) (same : s'.id = s.id) (h : ∃ t, g.created[j]? = some t ∧ t.id = sid) :
    ∃ t, (g.setSession i s').created[j]? = some t ∧ t.id = sid := by
  obtain ⟨t, at_j, named⟩ := h
  by_cases here : i = j
  · subst here
    cases found.symm.trans at_j
    exact ⟨s', setSession_self s' found, same.trans named⟩
  · exact ⟨t, setSession_other s' found here at_j, named⟩

theorem JoinFits.setSession {g : SessionRegistry} {i k : Nat} {s : RegisteredSession} {c : JoinCall}
    (fits : g.JoinFits k c) (s' : RegisteredSession) (found : g.created[i]? = some s) (same : s'.id = s.id) :
    (g.setSession i s').JoinFits k c := by
  intro holds
  obtain ⟨holder, point⟩ := fits holds
  refine ⟨holder, ?_⟩
  cases h : c.point with
  | missing => rw [h] at point; exact point
  | found i | entered i | adding i id =>
      rw [h] at point
      exact ⟨setSession_named found same point.1, point.2⟩
  | checked | named | locked | added | returned => trivial

theorem LeaveFits.setSession {g : SessionRegistry} {i k : Nat} {s : RegisteredSession} {c : LeaveCall}
    (fits : g.LeaveFits k c) (s' : RegisteredSession) (found : g.created[i]? = some s)
    (keep : s.peersLock = some k → s'.peersLock = some k ∧ s'.peers = s.peers) :
    (g.setSession i s').LeaveFits k c := by
  intro closing
  obtain ⟨t, at_c, holder, empty⟩ := fits closing
  by_cases here : i = c.session
  · subst here
    cases found.symm.trans at_c
    exact ⟨s', setSession_self s' found, (keep holder).1, (keep holder).2.trans empty⟩
  · exact ⟨t, setSession_other s' found here at_c, holder, empty⟩

/-- Peers stay together when the session they are in keeps them and stays open. -/
theorem Together.setSession {g : SessionRegistry} {i : Nat} {s : RegisteredSession} {sid : String} {p q : Nat}
    (together : g.Together sid p q) (s' : RegisteredSession) (found : g.created[i]? = some s)
    (keep : g.sessions sid = some i → s.closed = false → s.Has p → s.Has q →
      s'.closed = false ∧ s'.Has p ∧ s'.Has q) :
    (g.setSession i s').Together sid p q := by
  obtain ⟨j, t, registered, at_j, opened, left, right⟩ := together
  by_cases here : i = j
  · subst here
    cases found.symm.trans at_j
    exact ⟨i, s', registered, setSession_self s' found, keep registered opened left right⟩
  · exact ⟨j, t, registered, setSession_other s' found here at_j, opened, left, right⟩

/-- A session changes and its peers may be counted otherwise. -/
theorem Registered.setSession {g g' : SessionRegistry} {i : Nat} {s : RegisteredSession} (inv : g.Registered)
    (s' : RegisteredSession) (found : g.created[i]? = some s) (same : s'.id = s.id)
    (closed : s'.closed = true → s'.peersLock = none → g.sessions s.id ≠ some i)
    (sessions : g'.sessions = g.sessions) (created : g'.created = (g.setSession i s').created) (one : g'.OneSession) :
    g'.Registered where
  named sid j registered := by
    rw [sessions] at registered
    rw [created]
    exact setSession_named found same (inv.named sid j registered)
  closed j t at_j shut unlocked := by
    rw [created] at at_j
    rw [sessions]
    rcases lookup_set_cases at_j with ⟨rfl, rfl⟩ | ⟨-, old⟩
    · rw [same]
      exact closed shut unlocked
    · exact inv.closed j t old shut unlocked
  one := one

/-- Every other peer that joined is in the session under another id. -/
def OthersKept (g : SessionRegistry) (s : RegisteredSession) (id : String) (p : Nat) (sid : String) : Prop :=
  ∀ q, q ≠ p → (q, sid) ∈ g.joined → ∃ id', id' ≠ id ∧ (id', q) ∈ s.peers

theorem Registered.sessions_inj {g : SessionRegistry} (inv : g.Registered) {i : Nat} {s : RegisteredSession}
    {sid : String}
    (found : g.created[i]? = some s) (registered : g.sessions sid = some i) : s.id = sid := by
  obtain ⟨t, at_i, named⟩ := inv.named sid i registered
  cases found.symm.trans at_i
  exact named

/-- A peer is added well exactly when its session is still registered and keeps the others. -/
theorem Registered.addPeer_iff {g : SessionRegistry} {i p : Nat} {s : RegisteredSession} {id sid : String}
    (inv : g.Registered) (found : g.created[i]? = some s) (current : g.Current i sid)
    (unlocked : s.peersLock = none) :
    (g.addPeer i s id p sid).OneSession ↔ g.sessions sid = some i ∧ g.OthersKept s id p sid := by
  have new : (p, sid) ∈ (g.addPeer i s id p sid).joined := List.mem_append_right _ (List.mem_singleton_self _)
  constructor
  · intro one
    have same {j : Nat} (registered : g.sessions sid = some j) : j = i := by
      rcases current.2 with gone | here
      · rw [gone] at registered
        cases registered
      · exact Option.some.inj (registered.symm.trans here)
    constructor
    · obtain ⟨j, t, registered, -⟩ := one p p sid new new
      exact same registered ▸ registered
    · intro q other joined
      obtain ⟨j, t, registered, at_j, -, -, right⟩ := one p q sid new (List.mem_append_left _ joined)
      rw [same registered] at at_j
      cases (setSession_self (s.insertPeer id p) found).symm.trans at_j
      exact (RegisteredSession.insertPeer_has.mp right).resolve_left other
  · rintro ⟨registered, others⟩ a b sid' left right
    have named := inv.sessions_inj found registered
    by_cases here : sid' = sid
    · subst here
      have has {q : Nat} (joined : (q, sid') ∈ (g.addPeer i s id p sid').joined) : (s.insertPeer id p).Has q := by
        refine RegisteredSession.insertPeer_has.mpr ?_
        by_cases same : q = p
        · exact Or.inl same
        · rcases List.mem_append.mp joined with old | last
          · exact Or.inr (others q same old)
          · exact absurd (congrArg Prod.fst (List.mem_singleton.mp last)) same
      have opened : s.closed = false := by
        refine Bool.eq_false_iff.mpr fun shut => inv.closed i s found shut unlocked ?_
        rw [named, registered]
      exact ⟨i, _, registered, setSession_self _ found, opened, has left, has right⟩
    · have old {q : Nat} (joined : (q, sid') ∈ (g.addPeer i s id p sid).joined) : (q, sid') ∈ g.joined := by
        rcases List.mem_append.mp joined with old | last
        · exact old
        · exact absurd (congrArg Prod.snd (List.mem_singleton.mp last)) here
      refine (inv.one a b sid' (old left) (old right)).setSession _ found fun elsewhere => ?_
      exact absurd ((inv.sessions_inj found elsewhere).symm.trans named) here

theorem removePeer_eq (g : SessionRegistry) (k : Nat) (c : LeaveCall) (s : RegisteredSession) :
    ∃ lock point, (point = .closing → lock = some k ∧ (s.deletePeer c.id).peers = []) ∧ point ≠ .unregistering ∧
      g.removePeer k c s = { g.setSession c.session { s.deletePeer c.id with peersLock := lock } with
        joined := g.joined.filter fun entry => entry ≠ (c.peer, s.id)
        leaves := g.leaves.set k { c with point } } := by
  unfold removePeer
  dsimp only
  split
  next nobody =>
      refine ⟨some k, .closing, fun _ => ⟨rfl, ?_⟩, nofun, rfl⟩
      exact List.length_eq_zero_iff.mp (Nat.eq_zero_of_add_eq_zero_right nobody)
  · exact ⟨none, .returned, nofun, nofun, rfl⟩

/-- A peer leaves well exactly when its session, if registered, keeps the others. -/
theorem Registered.removePeer_iff {g : SessionRegistry} {k : Nat} {c : LeaveCall} {s : RegisteredSession}
    (inv : g.Registered) (found : g.created[c.session]? = some s) :
    (g.removePeer k c s).OneSession ↔ (g.sessions s.id = some c.session → g.OthersKept s c.id c.peer s.id) := by
  obtain ⟨lock, point, -, -, whole⟩ := removePeer_eq g k c s
  have stays {q : Nat} {sid : String} : (q, sid) ∈ (g.removePeer k c s).joined ↔
      (q, sid) ∈ g.joined ∧ (q, sid) ≠ (c.peer, s.id) := by
    rw [whole]
    exact List.mem_filter.trans (and_congr_right' decide_eq_true_iff)
  constructor
  · intro one registered q other joined
    have mem : (q, s.id) ∈ (g.removePeer k c s).joined :=
      stays.mpr ⟨joined, fun same => other (congrArg Prod.fst same)⟩
    obtain ⟨j, t, registered', at_j, -, right, -⟩ := one q q s.id mem mem
    rw [whole] at registered' at_j
    cases registered.symm.trans registered'
    cases (setSession_self { s.deletePeer c.id with peersLock := lock } found).symm.trans at_j
    exact RegisteredSession.deletePeer_has.mp right
  · intro others a b sid left right
    rw [whole]
    refine (inv.one a b sid (stays.mp left).1 (stays.mp right).1).setSession
      { s.deletePeer c.id with peersLock := lock } found fun registered opened _ _ => ?_
    have named := inv.sessions_inj found registered
    subst named
    have has {q : Nat} (joined : (q, s.id) ∈ (g.removePeer k c s).joined) : (s.deletePeer c.id).Has q := by
      obtain ⟨before, differs⟩ := stays.mp joined
      exact RegisteredSession.deletePeer_has.mpr (others registered q (fun same => differs (same ▸ rfl)) before)
    exact ⟨opened, has left, has right⟩

/-- A session without peers goes well exactly when it is the one registered, or nobody has joined its id. -/
theorem Registered.unregister_iff {g : SessionRegistry} {i : Nat} {s : RegisteredSession} (inv : g.Registered)
    (found : g.created[i]? = some s) (empty : s.peers = []) :
    (g.unregister i s).OneSession ↔ g.sessions s.id = some i ∨ ∀ p, (p, s.id) ∉ g.joined := by
  constructor
  · intro one
    refine Or.inr fun p joined => ?_
    obtain ⟨j, t, registered, -⟩ := one p p s.id joined joined
    rw [show (g.unregister i s).sessions = Function.update g.sessions s.id none from rfl,
      Function.update_self] at registered
    cases registered
  · intro safe a b sid left right
    have nobody (p : Nat) : (p, s.id) ∉ g.joined := by
      intro joined
      rcases safe with registered | none_joined
      · obtain ⟨j, t, registered', at_j, -, ⟨id, mem⟩, -⟩ := inv.one p p s.id joined joined
        cases registered.symm.trans registered'
        cases found.symm.trans at_j
        rw [empty] at mem
        cases mem
      · exact none_joined p joined
    have other : sid ≠ s.id := fun same => nobody a (same ▸ left)
    obtain ⟨j, t, registered, at_j, rest⟩ := (inv.one a b sid left right).setSession
      { s with peersLock := none } found fun _ opened left right => ⟨opened, left, right⟩
    refine ⟨j, t, ?_, at_j, rest⟩
    exact (Function.update_of_ne other none g.sessions).trans registered

theorem JoinFits.unregister {g : SessionRegistry} {i k : Nat} {s : RegisteredSession} {c : JoinCall}
    (fits : g.JoinFits k c) (found : g.created[i]? = some s) : (g.unregister i s).JoinFits k c := by
  have forgets (sid : String) : (g.unregister i s).sessions sid = none ∨
      (g.unregister i s).sessions sid = g.sessions sid := by
    change Function.update g.sessions s.id none sid = none ∨ Function.update g.sessions s.id none sid = g.sessions sid
    rw [Function.update_apply]
    split
    · exact Or.inl rfl
    · exact Or.inr rfl
  intro holds
  obtain ⟨holder, point⟩ := fits holds
  refine ⟨holder, ?_⟩
  cases h : c.point with
  | missing =>
      rw [h] at point
      rcases forgets c.sid with gone | same
      · exact gone
      · exact same.trans point
  | found j | entered j | adding j id =>
      rw [h] at point
      refine ⟨setSession_named found rfl point.1, ?_⟩
      rcases forgets c.sid with gone | same
      · exact Or.inl gone
      · rw [same]
        exact point.2
  | checked | named | locked | added | returned => trivial

theorem Registered.unregister {g : SessionRegistry} {i : Nat} {s : RegisteredSession} (inv : g.Registered)
    (found : g.created[i]? = some s) (one : (g.unregister i s).OneSession) : (g.unregister i s).Registered where
  named sid j registered := by
    change Function.update g.sessions s.id none sid = some j at registered
    rw [Function.update_apply] at registered
    split at registered
    · cases registered
    · exact setSession_named found rfl (inv.named sid j registered)
  closed j t at_j shut unlocked := by
    change Function.update g.sessions s.id none t.id ≠ some j
    rw [Function.update_apply]
    split
    · nofun
    next other =>
        rcases lookup_set_cases at_j with ⟨-, rfl⟩ | ⟨-, old⟩
        · exact absurd rfl other
        · exact inv.closed j t old shut unlocked
  one := one

theorem Registered.newSession {g : SessionRegistry} {sid : String} (inv : g.Registered)
    (missing : g.sessions sid = none) :
    (g.newSession sid).Registered where
  named sid' j registered := by
    change Function.update g.sessions sid (some g.created.length) sid' = some j at registered
    rw [Function.update_apply] at registered
    split at registered
    next same =>
        cases registered
        exact ⟨_, List.getElem?_concat_length, same.symm⟩
    · obtain ⟨s, at_j, named⟩ := inv.named sid' j registered
      exact ⟨s, lookup_append_old at_j, named⟩
  closed j t at_j shut unlocked := by
    change Function.update g.sessions sid (some g.created.length) t.id ≠ some j
    rcases lookup_append at_j with old | ⟨-, rfl⟩
    · rw [Function.update_apply]
      split
      · intro same
        cases same
        exact Nat.lt_irrefl _ (List.getElem?_eq_some_iff.mp old).1
      · exact inv.closed j t old shut unlocked
    · cases shut
  one a b sid' left right := by
    obtain ⟨j, t, registered, at_j, rest⟩ := inv.one a b sid' left right
    have other : sid' ≠ sid := by
      rintro rfl
      rw [missing] at registered
      cases registered
    exact ⟨j, t, (Function.update_of_ne other _ g.sessions).trans registered, lookup_append_old at_j, rest⟩

theorem LeaveFits.newSession {g : SessionRegistry} {sid : String} {k : Nat} {c : LeaveCall} (fits : g.LeaveFits k c) :
    (g.newSession sid).LeaveFits k c := by
  intro closing
  obtain ⟨s, at_c, rest⟩ := fits closing
  exact ⟨s, lookup_append_old at_c, rest⟩

/-- One join goes on; the others keep what they know, or do not hold the provider. -/
theorem Settled.moved {g g' : SessionRegistry} {k : Nat} {c : JoinCall} {point : JoinPoint} (inv : g.Settled)
    (joins : g'.joins = g.joins.set k { c with point })
    (new : point.holds = true → g'.provider = some k ∧ g'.PointFits c.sid point)
    (others : ∀ j c, j ≠ k → g.JoinFits j c → g'.JoinFits j c)
    (leaves : ∀ (j : Nat) c, g'.leaves[j]? = some c → g'.LeaveFits j c) (registered : g'.Registered) :
    g'.Settled where
  joins := by
    rw [joins]
    exact forall_set inv.joins new others
  leaves := leaves
  registered := registered

theorem idle_others {g g' : SessionRegistry} {k : Nat} (free : g.provider = none ∨ g.provider = some k) (j : Nat)
    (c : JoinCall) (other : j ≠ k) (fits : g.JoinFits j c) : g'.JoinFits j c := by
  refine fits.idle fun holder => ?_
  rcases free with nobody | here
  · rw [nobody] at holder
    cases holder
  · exact other (Option.some.inj (holder.symm.trans here))

theorem Settled.resumeJoin {g g' : SessionRegistry} {k : Nat} {c : JoinCall} (inv : g.Settled)
    (found : g.joins[k]? = some c) (h : g.resumeJoin k c = some g')
    (safe : ∀ i id s, c.point = .adding i id → g.created[i]? = some s → s.peersLock = none →
      g.sessions c.sid = some i ∧ g.OthersKept s id c.peer c.sid) : g'.Settled := by
  have fits := inv.joins k c found
  unfold SessionRegistry.resumeJoin at h
  cases point : c.point with
  | checked =>
      rw [point] at h
      cases h
      exact inv.moved rfl nofun (fun _ _ _ => id) inv.leaves (inv.registered.congr rfl rfl rfl)
  | named =>
      rw [point] at h
      dsimp only at h
      split at h
      next free =>
          cases h
          exact inv.moved rfl (fun _ => ⟨rfl, trivial⟩) (idle_others (Or.inl free)) inv.leaves
            (inv.registered.congr rfl rfl rfl)
      · cases h
  | locked =>
      rw [point] at h
      have holder := (fits (by rw [point]; rfl)).1
      dsimp only at h
      split at h
      next i registered =>
          cases h
          have current : g.Current i c.sid := ⟨inv.registered.named c.sid i registered, Or.inr registered⟩
          exact inv.moved rfl (fun _ => ⟨holder, current⟩) (fun _ _ _ => id) inv.leaves
            (inv.registered.congr rfl rfl rfl)
      next missing =>
          cases h
          exact inv.moved rfl (fun _ => ⟨holder, missing⟩) (fun _ _ _ => id) inv.leaves
            (inv.registered.congr rfl rfl rfl)
  | missing =>
      rw [point] at h
      cases h
      obtain ⟨holder, missing⟩ := fits (by rw [point]; rfl)
      rw [point] at missing
      have made := inv.registered.newSession missing
      have registered : (g.newSession c.sid).sessions c.sid = some g.created.length := Function.update_self ..
      have current : (g.newSession c.sid).Current g.created.length c.sid :=
        ⟨made.named _ _ registered, Or.inr registered⟩
      refine inv.moved rfl (fun _ => ⟨holder, current⟩) (idle_others (Or.inr holder)) ?_ (made.congr rfl rfl rfl)
      exact fun j c' at_j => (inv.leaves j c' at_j).newSession
  | found i =>
      rw [point] at h
      cases h
      obtain ⟨holder, current⟩ := fits (by rw [point]; rfl)
      rw [point] at current
      exact inv.moved rfl (fun _ => ⟨holder, current⟩) (fun _ _ _ => id) inv.leaves
        (inv.registered.congr rfl rfl rfl)
  | entered i =>
      rw [point] at h
      cases h
      obtain ⟨holder, current⟩ := fits (by rw [point]; rfl)
      rw [point] at current
      exact inv.moved rfl (fun _ => ⟨holder, current⟩) (fun _ _ _ => id) inv.leaves
        (inv.registered.congr rfl rfl rfl)
  | adding i id =>
      rw [point] at h
      obtain ⟨holder, current⟩ := fits (by rw [point]; rfl)
      rw [point] at current
      dsimp only at h
      split at h
      next s at_i =>
          split at h
          next unlocked =>
              cases h
              have one := (inv.registered.addPeer_iff at_i current unlocked).mpr (safe i id s point at_i unlocked)
              have added : (g.addPeer i s id c.peer c.sid).Registered :=
                inv.registered.setSession (s.insertPeer id c.peer) at_i rfl
                  (inv.registered.closed i s at_i) rfl rfl one
              refine inv.moved rfl (fun _ => ⟨holder, trivial⟩) (idle_others (Or.inr holder)) ?_
                (added.congr rfl rfl rfl)
              intro j c' at_j
              refine (inv.leaves j c' at_j).setSession _ at_i fun locked => ?_
              rw [unlocked] at locked
              cases locked
          · cases h
      · cases h
  | added =>
      rw [point] at h
      cases h
      have holder := (fits (by rw [point]; rfl)).1
      exact inv.moved rfl nofun (idle_others (Or.inr holder)) inv.leaves
        (inv.registered.congr rfl rfl rfl)
  | returned =>
      rw [point] at h
      cases h

theorem Settled.failJoin {g g' : SessionRegistry} {k : Nat} {c : JoinCall} (inv : g.Settled)
    (found : g.joins[k]? = some c) (h : g.failJoin k c = some g') : g'.Settled := by
  have fits := inv.joins k c found
  unfold SessionRegistry.failJoin at h
  split at h
  next i point =>
      cases h
      have holder := (fits (by rw [point]; rfl)).1
      exact inv.moved rfl nofun (idle_others (Or.inr holder)) inv.leaves (inv.registered.congr rfl rfl rfl)
  · cases h

theorem Settled.removePeer {g : SessionRegistry} {k : Nat} {c : LeaveCall} {s : RegisteredSession} (inv : g.Settled)
    (at_c : g.created[c.session]? = some s) (unlocked : s.peersLock = none)
    (kept : g.sessions s.id = some c.session → g.OthersKept s c.id c.peer s.id) : (g.removePeer k c s).Settled := by
  have one := (inv.registered.removePeer_iff (k := k) at_c).mpr kept
  obtain ⟨lock, next, closing, still, whole⟩ := removePeer_eq g k c s
  have removed : (g.removePeer k c s).Registered := by
    refine inv.registered.setSession { s.deletePeer c.id with peersLock := lock } at_c rfl ?_ ?_ ?_ one
    · exact fun shut _ => inv.registered.closed c.session s at_c shut unlocked
    · exact (congrArg SessionRegistry.sessions whole).trans rfl
    · exact (congrArg SessionRegistry.created whole).trans rfl
  rw [whole] at removed ⊢
  refine ⟨?_, ?_, removed⟩
  · exact fun j c' at_j => (inv.joins j c' at_j).setSession { s.deletePeer c.id with peersLock := lock } at_c rfl
  · refine forall_set inv.leaves ?_ fun j c' _ fits => ?_
    · intro either
      obtain ⟨locked, empty⟩ := closing (either.resolve_right still)
      exact ⟨_, setSession_self _ at_c, locked, empty⟩
    · refine fits.setSession { s.deletePeer c.id with peersLock := lock } at_c fun locked => ?_
      rw [unlocked] at locked
      cases locked

/-- A session that is being closed has nobody to lose by it. -/
theorem Settled.close {g : SessionRegistry} {k : Nat} {c : LeaveCall} {s : RegisteredSession} (inv : g.Settled)
    (at_c : g.created[c.session]? = some s) (locked : s.peersLock = some k)
    (empty : s.peers = []) :
    ((g.setSession c.session { s with closed := true }).setLeave k c .unregistering).Settled := by
  have one : (g.setSession c.session { s with closed := true }).OneSession := by
    intro a b sid left right
    refine (inv.registered.one a b sid left right).setSession _ at_c fun _ _ has _ => ?_
    obtain ⟨id, mem⟩ := has
    rw [empty] at mem
    cases mem
  have closed : (g.setSession c.session { s with closed := true }).Registered := by
    refine inv.registered.setSession { s with closed := true } at_c rfl (fun _ unlocked => ?_) rfl rfl one
    cases locked.symm.trans unlocked
  refine ⟨?_, ?_, closed.congr rfl rfl rfl⟩
  · exact fun j c' at_j => (inv.joins j c' at_j).setSession { s with closed := true } at_c rfl
  · refine forall_set inv.leaves ?_ fun j c' _ fits => ?_
    · exact fun _ => ⟨_, setSession_self _ at_c, locked, empty⟩
    · exact fits.setSession { s with closed := true } at_c fun locked' => ⟨locked', rfl⟩

theorem Settled.unregister {g : SessionRegistry} {k : Nat} {c : LeaveCall} {s : RegisteredSession} (inv : g.Settled)
    (at_c : g.created[c.session]? = some s) (locked : s.peersLock = some k)
    (one : (g.unregister c.session s).OneSession) : ((g.unregister c.session s).setLeave k c .returned).Settled := by
  refine ⟨?_, ?_, (inv.registered.unregister at_c one).congr rfl rfl rfl⟩
  · exact fun j c' at_j => (inv.joins j c' at_j).unregister at_c
  · refine forall_set inv.leaves (fun either => ?_) fun j c' other fits => ?_
    · rcases either with here | here <;> cases here
    · refine fits.setSession { s with peersLock := none } at_c fun locked' => ?_
      exact absurd (Option.some.inj (locked'.symm.trans locked)) other

theorem Settled.resumeLeave {g g' : SessionRegistry} {k : Nat} {c : LeaveCall} (inv : g.Settled)
    (found : g.leaves[k]? = some c) (h : g.resumeLeave k c = some g')
    (called : ∀ s, g.created[c.session]? = some s → c.point = .called → s.peersLock = none →
      g.sessions s.id = some c.session → g.OthersKept s c.id c.peer s.id)
    (unregistering : ∀ s, g.created[c.session]? = some s → c.point = .unregistering →
      g.sessions s.id = some c.session ∨ ∀ p, (p, s.id) ∉ g.joined) : g'.Settled := by
  have fits := inv.leaves k c found
  unfold SessionRegistry.resumeLeave at h
  split at h
  · cases h
  next s at_c =>
      cases point : c.point with
      | called =>
          rw [point] at h
          dsimp only at h
          split at h
          next unlocked =>
              cases h
              exact inv.removePeer at_c unlocked (called s at_c point unlocked)
          · cases h
      | closing =>
          rw [point] at h
          cases h
          obtain ⟨s', at_c', locked, empty⟩ := fits (Or.inl point)
          cases at_c.symm.trans at_c'
          exact inv.close at_c locked empty
      | unregistering =>
          rw [point] at h
          cases h
          obtain ⟨s', at_c', locked, empty⟩ := fits (Or.inr point)
          cases at_c.symm.trans at_c'
          exact inv.unregister at_c locked
            ((inv.registered.unregister_iff at_c empty).mpr (unregistering s at_c point))
      | returned =>
          rw [point] at h
          cases h

/-- The relay peers of a session count for nothing else. -/
theorem Settled.setRelayPeers {g : SessionRegistry} {i : Nat} {s : RegisteredSession} (inv : g.Settled)
    (found : g.created[i]? = some s) (relayPeers : List String) : (g.setSession i { s with relayPeers }).Settled where
  joins j c at_j := (inv.joins j c at_j).setSession _ found rfl
  leaves j c at_j := (inv.leaves j c at_j).setSession _ found fun locked => ⟨locked, rfl⟩
  registered := by
    refine inv.registered.setSession { s with relayPeers } found rfl (inv.registered.closed i s found) rfl rfl
      fun a b sid left right => ?_
    exact (inv.registered.one a b sid left right).setSession _ found fun _ opened left right => ⟨opened, left, right⟩

theorem Settled.join {g : SessionRegistry} (inv : g.Settled) (peer : Nat) (sid uid newV4 : String) :
    (g.join peer sid uid newV4).Settled := by
  unfold SessionRegistry.join
  split
  · exact inv
  · exact ⟨forall_append inv.joins nofun, inv.leaves, inv.registered.congr rfl rfl rfl⟩

theorem Settled.leave {g : SessionRegistry} (inv : g.Settled) (peer : Nat) : (g.leave peer).Settled := by
  unfold SessionRegistry.leave
  split
  · refine ⟨inv.joins, forall_append inv.leaves fun either => ?_, inv.registered.congr rfl rfl rfl⟩
    rcases either with here | here <;> cases here
  · exact inv

/-- A peer is added to the session registered under its id, under an id that no other peer
needs; nobody leaves under such an id either; and a session that closes is the one
registered, unless nobody has joined its id. -/
def Safe (g : SessionRegistry) : RegistryStep → Prop
  | .resumeJoin k => ∀ c i id s, g.joins[k]? = some c → c.point = .adding i id → g.created[i]? = some s →
      s.peersLock = none → g.sessions c.sid = some i ∧ g.OthersKept s id c.peer c.sid
  | .resumeLeave k => ∀ c s, g.leaves[k]? = some c → g.created[c.session]? = some s →
      (c.point = .called → s.peersLock = none → g.sessions s.id = some c.session → g.OthersKept s c.id c.peer s.id) ∧
        (c.point = .unregistering → g.sessions s.id = some c.session ∨ ∀ p, (p, s.id) ∉ g.joined)
  | _ => True

theorem Settled.step {g g' : SessionRegistry} {a : RegistryStep} (inv : g.Settled) (safe : g.Safe a)
    (h : g.step a = some g') : g'.Settled := by
  cases a with
  | join peer sid uid newV4 =>
      cases h
      exact inv.join peer sid uid newV4
  | resumeJoin k =>
      obtain ⟨c, found, h⟩ := Option.bind_eq_some_iff.mp h
      exact inv.resumeJoin found h fun i id s => safe c i id s found
  | failJoin k =>
      obtain ⟨c, found, h⟩ := Option.bind_eq_some_iff.mp h
      exact inv.failJoin found h
  | leave peer =>
      cases h
      exact inv.leave peer
  | resumeLeave k =>
      obtain ⟨c, found, h⟩ := Option.bind_eq_some_iff.mp h
      exact inv.resumeLeave found h (fun s at_c => (safe c s found at_c).1) fun s at_c => (safe c s found at_c).2
  | relayReady i id =>
      obtain ⟨s, found, rfl⟩ := Option.map_eq_some_iff.mp h
      exact inv.setRelayPeers found _
  | relayClosed i id =>
      obtain ⟨s, found, rfl⟩ := Option.map_eq_some_iff.mp h
      exact inv.setRelayPeers found _

/-- A step keeps one session for an id exactly when it is safe. -/
theorem Settled.safe_iff {g : SessionRegistry} {a : RegistryStep} (inv : g.Settled) :
    (∀ g', g.step a = some g' → g'.OneSession) ↔ g.Safe a := by
  constructor
  · intro one
    cases a with
    | resumeJoin k =>
        intro c i id s found point at_i unlocked
        obtain ⟨-, current⟩ := inv.joins k c found (by rw [point]; rfl)
        rw [point] at current
        refine (inv.registered.addPeer_iff at_i current unlocked).mp fun p q sid left right => ?_
        refine one ((g.addPeer i s id c.peer c.sid).setJoin k c .added) ?_ p q sid left right
        simp only [SessionRegistry.step, found, Option.bind_some, SessionRegistry.resumeJoin, point, at_i,
          unlocked, if_true]
    | resumeLeave k =>
        intro c s found at_c
        constructor
        · intro point unlocked
          refine (inv.registered.removePeer_iff (k := k) at_c).mp (one _ ?_)
          simp only [SessionRegistry.step, found, Option.bind_some, SessionRegistry.resumeLeave, point, at_c,
            unlocked, if_true]
        · intro point
          obtain ⟨s', at_c', -, empty⟩ := inv.leaves k c found (Or.inr point)
          cases at_c.symm.trans at_c'
          refine (inv.registered.unregister_iff at_c empty).mp fun p q sid left right => ?_
          refine one ((g.unregister c.session s).setLeave k c .returned) ?_ p q sid left right
          simp only [SessionRegistry.step, found, Option.bind_some, SessionRegistry.resumeLeave, point, at_c]
    | join peer sid uid newV4 => trivial
    | failJoin k => trivial
    | leave peer => trivial
    | relayReady i id => trivial
    | relayClosed i id => trivial
  · intro safe g' h
    exact (inv.step safe h).registered.one

theorem settled_empty : Settled {} := ⟨nofun, nofun, nofun, nofun, nofun⟩

/-- Along a run two peers that joined an id and did not leave are in one open session that
is registered under it, exactly when every step is safe. -/
theorem run_oneSession_iff (steps : List RegistryStep) :
    (∀ before, before <+: steps → ∀ g, run SessionRegistry.step {} before = some g → g.OneSession) ↔
      Guarded SessionRegistry.step Safe {} steps := by
  rw [← guarded_reaches_iff OneSession settled_empty.registered.one]
  exact guarded_iff Settled (fun g a inv => inv.safe_iff) (fun g a g' inv safe h => inv.step safe h) settled_empty

/-- A second peer looks the session up, the first one leaves and closes it, the second is
added to it, and a third makes another session. -/
def joinLate : List RegistryStep :=
  .join 0 "room" "" "a" :: List.replicate 8 (.resumeJoin 0) ++
    .join 1 "room" "" "b" :: List.replicate 4 (.resumeJoin 1) ++
    .leave 0 :: List.replicate 3 (.resumeLeave 0) ++ List.replicate 3 (.resumeJoin 1) ++
    .join 2 "room" "" "c" :: List.replicate 8 (.resumeJoin 2)

theorem late_join_alone : ∃ g, run SessionRegistry.step {} joinLate = some g ∧
    (1, "room") ∈ g.joined ∧ (2, "room") ∈ g.joined ∧ ¬g.OneSession := by
  have reached : ∃ g, run SessionRegistry.step {} joinLate = some g ∧ g.joined = [(1, "room"), (2, "room")] ∧
      g.sessions "room" = some 1 ∧ g.created[1]?.map RegisteredSession.peers = some [("c", 2)] :=
      ⟨_, rfl, rfl, rfl, rfl⟩
  obtain ⟨g, reached, joined, registered, only⟩ := reached
  have b : (1, "room") ∈ g.joined := by rw [joined]; exact List.mem_cons_self
  have c : (2, "room") ∈ g.joined := by rw [joined]; exact List.mem_cons_of_mem _ List.mem_cons_self
  refine ⟨g, reached, b, c, fun one => ?_⟩
  obtain ⟨i, s, registered', at_i, -, ⟨id, mem⟩, -⟩ := one 1 2 "room" b c
  cases registered.symm.trans registered'
  rw [at_i] at only
  rw [Option.some.inj only] at mem
  cases List.mem_singleton.mp mem

end SessionRegistry

end Rsfu
