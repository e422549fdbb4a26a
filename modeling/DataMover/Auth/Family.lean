import DataMover.Auth.Sessions
import DataMover.Transition

/-!
# The family of a refresh token

The tokens of a session are the iterates of `successor_refresh_token` on the token it was created with:
the history holds the consumed ones, in order, and the row holds the last (`Family`).  Presenting a
consumed token returns the current one within the grace of a duplicate request, or revokes the session
(`refresh_family_safe`), unless the CSRF proofs of a duplicate cannot be compared: `compare_digest`
raises a `TypeError` on text that is not ASCII (`replay_raises_typeError`).
-/

namespace DataMover

open Transition

namespace SessionTable

/-- The calls on the session tables. -/
inductive SessionCall where
  | createSession (now : Time) (user : User) (id : String) (raw csrf : RandomToken)
  | rotateSession (p : Presented)
  | revokeSession (now : Time) (id : String)

variable (settings : SessionSettings)

/-- The tokens of a new session do not repeat and belong to no other session. -/
def NoCollision (t : SessionTable) (raw : String) : Prop :=
  (∀ i j, settings.successorRefreshToken^[i] raw = settings.successorRefreshToken^[j] raw → i = j) ∧
  ∀ s ∈ t.sessions, ∀ i j, settings.successorRefreshToken^[i] raw ≠
    settings.successorRefreshToken^[j] (t.root s.id)

/-- Any calls at any times; random tokens do not collide. -/
def familySystem : System SessionTable SessionCall where
  Init t := t.sessions = [] ∧ t.history = []
  Step t call t' := match call with
    | .createSession now user id raw csrf => (∀ s ∈ t.sessions, s.id ≠ id) ∧
      t.NoCollision settings raw.1 ∧ t' = (t.createSession settings now user id raw csrf).2
    | .rotateSession p => t' = (t.rotateSession settings p).2
    | .revokeSession now id => t' = t.revokeSession now id

/-! ## Chains -/

/-- The hash of the token `i` of a session. -/
def chainHash (t : SessionTable) (id : String) (i : Nat) : String :=
  settings.hashToken (settings.successorRefreshToken^[i] (t.root id))

/-- The consumed tokens of a session. -/
def consumed (t : SessionTable) (id : String) : List RefreshTokenHistory :=
  t.history.filter fun h => h.sessionId = id

/-- The history holds the first `n` tokens of the session, and the row the next one. -/
def Chain (t : SessionTable) (s : RefreshSession) (n : Nat) : Prop :=
  s.refreshTokenHash = t.chainHash settings s.id n ∧
    (t.consumed s.id).map (·.tokenHash) = (List.range n).map (t.chainHash settings s.id)

/-- The families of all sessions. -/
structure Family (t : SessionTable) : Prop where
  ids : (t.sessions.map RefreshSession.id).Nodup
  chain : ∀ s ∈ t.sessions, ∃ n, t.Chain settings s n
  acyclic : ∀ s ∈ t.sessions, ∀ i j, settings.successorRefreshToken^[i] (t.root s.id) =
    settings.successorRefreshToken^[j] (t.root s.id) → i = j
  apart : ∀ s ∈ t.sessions, ∀ s' ∈ t.sessions, s.id ≠ s'.id → ∀ i j,
    settings.successorRefreshToken^[i] (t.root s.id) ≠
      settings.successorRefreshToken^[j] (t.root s'.id)
  owned : ∀ h ∈ t.history, ∃ s ∈ t.sessions, s.id = h.sessionId
  ascii : ∀ s ∈ t.sessions, isAscii s.csrfToken = true
  idle : ∀ s ∈ t.sessions, t.consumed s.id ≠ [] → s.idleExpiresAt ≤ s.absoluteExpiresAt

section Lookups

variable {settings : SessionSettings} {t : SessionTable} {s s' : RefreshSession}

theorem Family.eq_of_id (f : Family settings t) (hs : s ∈ t.sessions) (hs' : s' ∈ t.sessions)
    (h : s.id = s'.id) : s = s' :=
  List.inj_on_of_nodup_map f.ids hs hs' h

theorem Family.get_eq (f : Family settings t) (hs : s ∈ t.sessions) : t.get s.id = some s := by
  unfold get
  cases found : t.sessions.find? fun x => x.id = s.id with
  | none =>
    have absent := List.find?_eq_none.1 found s hs
    simp at absent
  | some x =>
    have id : x.id = s.id := by simpa using List.find?_some found
    rw [f.eq_of_id (List.mem_of_find?_eq_some found) hs id]

/-- Tokens of the families are equal only at the same place of the same session. -/
theorem Family.eq_of_token (f : Family settings t) (hs : s ∈ t.sessions) (hs' : s' ∈ t.sessions)
    {i j : Nat} (hash : Function.Injective settings.hashToken)
    (h : t.chainHash settings s.id i = t.chainHash settings s'.id j) : s = s' ∧ i = j := by
  have tokens := hash h
  by_cases same : s.id = s'.id
  · rw [← same] at tokens
    exact ⟨f.eq_of_id hs hs' same, f.acyclic s hs i j tokens⟩
  · exact absurd tokens (f.apart s hs s' hs' same i j)

/-- A row of the history is a token before the current one. -/
theorem Family.consumed_token (f : Family settings t) (hs : s ∈ t.sessions)
    {h : RefreshTokenHistory} (hh : h ∈ t.history) (id : h.sessionId = s.id) :
    ∃ i n, i < n ∧ h.tokenHash = t.chainHash settings s.id i ∧ t.Chain settings s n := by
  obtain ⟨n, chain⟩ := f.chain s hs
  have mem : h ∈ t.consumed s.id := List.mem_filter.2 ⟨hh, by simpa using id⟩
  have token := List.mem_map_of_mem (f := RefreshTokenHistory.tokenHash) mem
  rw [chain.2] at token
  obtain ⟨i, hi, same⟩ := List.mem_map.1 token
  exact ⟨i, n, List.mem_range.1 hi, same.symm, chain⟩

/-- Consumed tokens are not current. -/
theorem Family.not_current (f : Family settings t) (hash : Function.Injective settings.hashToken)
    (hs : s ∈ t.sessions) {h : RefreshTokenHistory} (hh : h ∈ t.history) (id : h.sessionId = s.id)
    (hs' : s' ∈ t.sessions) : s'.refreshTokenHash ≠ h.tokenHash := by
  intro current
  obtain ⟨i, n, before, token, chain⟩ := f.consumed_token hs hh id
  obtain ⟨m, chain'⟩ := f.chain s' hs'
  rw [chain'.1, token] at current
  obtain ⟨rfl, rfl⟩ := f.eq_of_token hs' hs hash current
  -- both lengths are the length of the history
  have lengths := congrArg List.length (chain.2.symm.trans chain'.2)
  simp only [List.length_map, List.length_range] at lengths
  exact absurd lengths (Nat.ne_of_gt before)

/-- A token is consumed once. -/
theorem Family.eq_of_tokenHash (f : Family settings t)
    (hash : Function.Injective settings.hashToken) {h h' : RefreshTokenHistory}
    (hh : h ∈ t.history) (hh' : h' ∈ t.history) (same : h.tokenHash = h'.tokenHash) : h = h' := by
  obtain ⟨s, hs, id⟩ := f.owned h hh
  obtain ⟨s', hs', id'⟩ := f.owned h' hh'
  obtain ⟨i, n, -, token, chain⟩ := f.consumed_token hs hh id.symm
  obtain ⟨j, m, -, token', -⟩ := f.consumed_token hs' hh' id'.symm
  rw [token, token'] at same
  obtain ⟨rfl, rfl⟩ := f.eq_of_token hs hs' hash same
  have nodup : ((t.consumed s.id).map (·.tokenHash)).Nodup := by
    rw [chain.2]
    refine List.Nodup.map_on ?_ List.nodup_range
    intro a _ b _ equal
    exact (f.eq_of_token hs hs hash equal).2
  refine List.inj_on_of_nodup_map nodup ?_ ?_ (token.trans token'.symm)
  · exact List.mem_filter.2 ⟨hh, by simpa using id.symm⟩
  · exact List.mem_filter.2 ⟨hh', by simpa using id'.symm⟩

/-- `rotate_session` on a consumed token takes the branch of a replay. -/
theorem Family.rotateSession_consumed (f : Family settings t)
    (hash : Function.Injective settings.hashToken) (hs : s ∈ t.sessions) {h : RefreshTokenHistory}
    (hh : h ∈ t.history) (id : h.sessionId = s.id) {p : Presented}
    (raw : h.tokenHash = settings.hashToken p.raw) :
    t.rotateSession settings p = t.replay settings p h s := by
  have current : t.sessions.find? (fun s =>
      s.refreshTokenHash = settings.hashToken p.raw ∧ s.Live p.now) = none := by
    rw [List.find?_eq_none]
    intro s' hs' found
    have same : s'.refreshTokenHash = settings.hashToken p.raw := (of_decide_eq_true found).1
    exact f.not_current hash hs hh id hs' (same.trans raw.symm)
  have replayed : t.history.find? (fun h => h.tokenHash = settings.hashToken p.raw) = some h := by
    cases found : t.history.find? fun h => h.tokenHash = settings.hashToken p.raw with
    | none =>
      have absent := List.find?_eq_none.1 found h hh
      simp [raw] at absent
    | some h' =>
      have token : h'.tokenHash = settings.hashToken p.raw := by simpa using List.find?_some found
      rw [f.eq_of_tokenHash hash (List.mem_of_find?_eq_some found) hh (token.trans raw.symm)]
  unfold rotateSession
  rw [current, replayed]
  simp only [id, f.get_eq hs]

end Lookups

/-! ## What `rotate_session` does -/

/-- The session after its token was exchanged. -/
def exchangedSession (p : Presented) (s : RefreshSession) : RefreshSession :=
  (s.rotate p.now (settings.hashToken (settings.successorRefreshToken p.raw))).extendIdle settings
    p.now

/-- The outcomes of `rotate_session`. -/
inductive Rotation (t : SessionTable) (p : Presented) :
    Except AuthExn SessionTokens × SessionTable → Prop
  | exchanged {s : RefreshSession} (hs : s ∈ t.sessions)
      (current : s.refreshTokenHash = settings.hashToken p.raw) (live : s.Live p.now) :
      Rotation t p
        (.ok ⟨createAccessToken (p.user s.userId) s.id, settings.successorRefreshToken p.raw,
          exchangedSession settings p s⟩,
          { t.put (exchangedSession settings p s) with
            history := t.history ++ [⟨s.id, settings.hashToken p.raw, p.later⟩] })
  | duplicate {s : RefreshSession} (hs : s ∈ t.sessions) (live : s.Live p.later) :
      Rotation t p
        (.ok ⟨createAccessToken (p.user s.userId) s.id, settings.successorRefreshToken p.raw, s⟩, t)
  | refused (e : AuthExn) : Rotation t p (.error e, t)
  | reused {s : RefreshSession} (hs : s ∈ t.sessions) :
      Rotation t p (.error refreshInvalid, t.put (s.revoke p.later))

section Rotations

variable {settings : SessionSettings} {t : SessionTable} {p : Presented}

theorem replay_rotation {h : RefreshTokenHistory} {s : RefreshSession} (hs : s ∈ t.sessions) :
    Rotation settings t p (t.replay settings p h s) := by
  unfold replay
  dsimp only
  split_ifs with duplicate
  · split
    · exact .refused _
    · exact .refused _
    · exact .duplicate hs duplicate.2.1
  · exact .reused hs

theorem rotateSession_rotation (settings : SessionSettings) (t : SessionTable) (p : Presented) :
    Rotation settings t p (t.rotateSession settings p) := by
  unfold rotateSession
  split
  · rename_i s found
    have known : s.refreshTokenHash = settings.hashToken p.raw ∧ s.Live p.now := by
      simpa using List.find?_some found
    unfold rotated
    dsimp only
    split_ifs with active
    · exact .exchanged (List.mem_of_find?_eq_some found) known.1 known.2
    · exact .refused _
  · split
    · exact .refused _
    · split
      · exact .refused _
      · rename_i s found
        exact replay_rotation (List.mem_of_find?_eq_some found)

end Rotations

/-! ## The calls keep the families -/

section Steps

variable {settings : SessionSettings} {t t' : SessionTable} {p : Presented}

theorem map_id_of_keeps {g : RefreshSession → RefreshSession} (id : ∀ s, (g s).id = s.id)
    (sessions : List RefreshSession) :
    (sessions.map g).map RefreshSession.id = sessions.map RefreshSession.id := by
  rw [List.map_map]
  exact List.map_congr_left fun s _ => id s

/-- An edit of the rows that keeps their tokens. -/
theorem Family.edit (f : Family settings t) {g : RefreshSession → RefreshSession}
    (id : ∀ s, (g s).id = s.id) (csrf : ∀ s, (g s).csrfToken = s.csrfToken)
    (token : ∀ s, (g s).refreshTokenHash = s.refreshTokenHash)
    (idle : ∀ s, (g s).idleExpiresAt = s.idleExpiresAt)
    (absolute : ∀ s, (g s).absoluteExpiresAt = s.absoluteExpiresAt) :
    Family settings { t with sessions := t.sessions.map g } := by
  refine ⟨?_, ?_, ?_, ?_, ?_, ?_, ?_⟩
  · rw [map_id_of_keeps id]
    exact f.ids
  · intro x hx
    obtain ⟨s, hs, rfl⟩ := List.mem_map.1 hx
    obtain ⟨n, chain⟩ := f.chain s hs
    refine ⟨n, ?_, ?_⟩
    · rw [token, id]
      exact chain.1
    · rw [id]
      exact chain.2
  · intro x hx
    obtain ⟨s, hs, rfl⟩ := List.mem_map.1 hx
    rw [id]
    exact f.acyclic s hs
  · intro x hx y hy
    obtain ⟨s, hs, rfl⟩ := List.mem_map.1 hx
    obtain ⟨s', hs', rfl⟩ := List.mem_map.1 hy
    rw [id, id]
    exact f.apart s hs s' hs'
  · intro h hh
    obtain ⟨s, hs, same⟩ := f.owned h hh
    exact ⟨g s, List.mem_map_of_mem hs, (id s).trans same⟩
  · intro x hx
    obtain ⟨s, hs, rfl⟩ := List.mem_map.1 hx
    rw [csrf]
    exact f.ascii s hs
  · intro x hx used
    obtain ⟨s, hs, rfl⟩ := List.mem_map.1 hx
    rw [idle, absolute]
    rw [id] at used
    exact f.idle s hs used

theorem Family.revoked (f : Family settings t) {s : RefreshSession} (hs : s ∈ t.sessions)
    (now : Time) : Family settings (t.put (s.revoke now)) := by
  -- the written row differs from the stored one in `revoked_at` only
  have rows : t.put (s.revoke now) =
      { t with sessions := t.sessions.map fun x => if x.id = s.id then x.revoke now else x } := by
    unfold put
    congr 1
    refine List.map_congr_left fun x hx => ?_
    by_cases same : x.id = s.id
    · rw [if_pos (show x.id = (s.revoke now).id from same), if_pos same, f.eq_of_id hx hs same]
    · rw [if_neg (show ¬ x.id = (s.revoke now).id from same), if_neg same]
  rw [rows]
  refine f.edit ?_ ?_ ?_ ?_ ?_
  all_goals
    intro x
    split_ifs
    · rfl
    · rfl

theorem Family.revokeSession (f : Family settings t) (now : Time) (id : String) :
    Family settings (t.revokeSession now id) := by
  refine f.edit ?_ ?_ ?_ ?_ ?_
  all_goals
    intro x
    split_ifs
    · rfl
    · rfl

/-- The consumed tokens after one more. -/
theorem consumed_append (t : SessionTable) (sessions : List RefreshSession) (h : RefreshTokenHistory)
    (id : String) :
    ({ t with sessions := sessions, history := t.history ++ [h] } : SessionTable).consumed id =
      if h.sessionId = id then t.consumed id ++ [h] else t.consumed id := by
  unfold consumed
  rw [List.filter_append]
  split_ifs with same
  · rw [List.filter_singleton]
    simp [same]
  · rw [List.filter_singleton]
    simp [same]

theorem Family.exchanged (f : Family settings t) (hash : Function.Injective settings.hashToken)
    {s : RefreshSession} (hs : s ∈ t.sessions)
    (current : s.refreshTokenHash = settings.hashToken p.raw) :
    Family settings { t.put (exchangedSession settings p s) with
      history := t.history ++ [⟨s.id, settings.hashToken p.raw, p.later⟩] } := by
  obtain ⟨n, chain⟩ := f.chain s hs
  have raw : p.raw = settings.successorRefreshToken^[n] (t.root s.id) :=
    hash (current.symm.trans chain.1)
  -- the row of the session is replaced, the other rows stay
  have rows {x : RefreshSession} (hx : x ∈ (t.put (exchangedSession settings p s)).sessions) :
      x = exchangedSession settings p s ∨ x ∈ t.sessions ∧ x.id ≠ s.id := by
    obtain ⟨y, hy, rfl⟩ := List.mem_map.1 hx
    split_ifs with same
    · exact .inl rfl
    · exact .inr ⟨hy, same⟩
  have old {x : RefreshSession} (hx : x ∈ (t.put (exchangedSession settings p s)).sessions) :
      ∃ y ∈ t.sessions, y.id = x.id ∧ y.csrfToken = x.csrfToken := by
    rcases rows hx with rfl | ⟨hx, -⟩
    · exact ⟨s, hs, rfl, rfl⟩
    · exact ⟨x, hx, rfl, rfl⟩
  have keeps (y : RefreshSession) :
      (if y.id = (exchangedSession settings p s).id then exchangedSession settings p s else y).id =
        y.id := by
    split_ifs with same
    · exact same.symm
    · rfl
  refine ⟨?_, ?_, ?_, ?_, ?_, ?_, ?_⟩
  · show ((t.sessions.map _).map RefreshSession.id).Nodup
    rw [map_id_of_keeps keeps]
    exact f.ids
  · intro x hx
    rcases rows hx with rfl | ⟨hx, other⟩
    · refine ⟨n + 1, ?_, ?_⟩
      · show settings.hashToken (settings.successorRefreshToken p.raw) = settings.hashToken _
        rw [raw, Function.iterate_succ_apply']
        rfl
      · have more := consumed_append t (t.put (exchangedSession settings p s)).sessions
          ⟨s.id, settings.hashToken p.raw, p.later⟩ s.id
        rw [if_pos rfl] at more
        show (consumed _ s.id).map _ = _
        refine (congrArg _ more).trans ?_
        rw [List.map_append, chain.2, List.range_succ, List.map_append]
        show _ ++ [settings.hashToken p.raw] = _
        rw [raw]
        rfl
    · obtain ⟨m, chain'⟩ := f.chain x hx
      refine ⟨m, chain'.1, ?_⟩
      have same := consumed_append t (t.put (exchangedSession settings p s)).sessions
        ⟨s.id, settings.hashToken p.raw, p.later⟩ x.id
      rw [if_neg (Ne.symm other)] at same
      exact (congrArg _ same).trans chain'.2
  · intro x hx
    obtain ⟨y, hy, id, -⟩ := old hx
    rw [← id]
    exact f.acyclic y hy
  · intro x hx x' hx'
    obtain ⟨y, hy, id, -⟩ := old hx
    obtain ⟨y', hy', id', -⟩ := old hx'
    rw [← id, ← id']
    exact f.apart y hy y' hy'
  · intro h hh
    have owner : ∃ y ∈ t.sessions, y.id = h.sessionId := by
      rcases List.mem_append.1 hh with hh | hh
      · exact f.owned h hh
      · rw [List.mem_singleton.1 hh]
        exact ⟨s, hs, rfl⟩
    obtain ⟨y, hy, id⟩ := owner
    exact ⟨_, List.mem_map_of_mem hy, (keeps y).trans id⟩
  · intro x hx
    obtain ⟨y, hy, -, csrf⟩ := old hx
    rw [← csrf]
    exact f.ascii y hy
  · intro x hx used
    rcases rows hx with rfl | ⟨hx, other⟩
    · exact Int.min_le_right _ _
    · refine f.idle x hx ?_
      have same := consumed_append t (t.put (exchangedSession settings p s)).sessions
        ⟨s.id, settings.hashToken p.raw, p.later⟩ x.id
      rw [if_neg (Ne.symm other)] at same
      rwa [← same]

theorem Family.created (f : Family settings t) {now : Time} {user : User} {id : String}
    {raw csrf : RandomToken} (fresh : ∀ s ∈ t.sessions, s.id ≠ id)
    (apart : t.NoCollision settings raw.1) :
    Family settings (t.createSession settings now user id raw csrf).2 := by
  have root {s : RefreshSession} (hs : s ∈ t.sessions) :
      (t.createSession settings now user id raw csrf).2.root s.id = t.root s.id :=
    if_neg (fresh s hs)
  have rootNew : (t.createSession settings now user id raw csrf).2.root id = raw.1 := if_pos rfl
  have rows {x : RefreshSession}
      (hx : x ∈ (t.createSession settings now user id raw csrf).2.sessions) :
      x ∈ t.sessions ∨ x = RefreshSession.opened settings now id user.id raw.1 csrf.1 := by
    rcases List.mem_append.1 hx with hx | hx
    · exact .inl hx
    · exact .inr (List.mem_singleton.1 hx)
  have unused : t.consumed id = [] := by
    rw [consumed, List.filter_eq_nil_iff]
    intro h hh same
    obtain ⟨s, hs, owner⟩ := f.owned h hh
    exact fresh s hs (owner.trans (of_decide_eq_true same))
  refine ⟨?_, ?_, ?_, ?_, ?_, ?_, ?_⟩
  · show ((t.sessions ++ [_]).map RefreshSession.id).Nodup
    rw [List.map_append, List.nodup_append]
    refine ⟨f.ids, List.nodup_singleton _, ?_⟩
    intro a ha b hb
    obtain ⟨s, hs, rfl⟩ := List.mem_map.1 ha
    rw [List.mem_singleton.1 hb]
    exact fresh s hs
  · intro x hx
    rcases rows hx with hx | rfl
    · obtain ⟨n, chain⟩ := f.chain x hx
      refine ⟨n, ?_, ?_⟩
      · rw [chainHash, root hx]
        exact chain.1
      · refine chain.2.trans (List.map_congr_left fun i _ => ?_)
        rw [chainHash, chainHash, root hx]
    · refine ⟨0, ?_, ?_⟩
      · show settings.hashToken raw.1 = settings.hashToken _
        rw [show (RefreshSession.opened settings now id user.id raw.1 csrf.1).id = id from rfl, rootNew]
        rfl
      · exact congrArg _ unused
  · intro x hx
    rcases rows hx with hx | rfl
    · rw [root hx]
      exact f.acyclic x hx
    · rw [show (RefreshSession.opened settings now id user.id raw.1 csrf.1).id = id from rfl, rootNew]
      exact apart.1
  · intro x hx y hy other
    rcases rows hx with hx | rfl
    · rcases rows hy with hy | rfl
      · rw [root hx, root hy]
        exact f.apart x hx y hy other
      · rw [root hx,
          show (RefreshSession.opened settings now id user.id raw.1 csrf.1).id = id from rfl, rootNew]
        exact fun i j same => apart.2 x hx j i same.symm
    · rcases rows hy with hy | rfl
      · rw [root hy,
          show (RefreshSession.opened settings now id user.id raw.1 csrf.1).id = id from rfl, rootNew]
        exact apart.2 y hy
      · exact absurd rfl other
  · intro h hh
    obtain ⟨s, hs, owner⟩ := f.owned h hh
    exact ⟨s, List.mem_append_left _ hs, owner⟩
  · intro x hx
    rcases rows hx with hx | rfl
    · exact f.ascii x hx
    · exact csrf.2
  · intro x hx used
    rcases rows hx with hx | rfl
    · exact f.idle x hx used
    · exact absurd unused used

theorem Family.rotation (f : Family settings t) (hash : Function.Injective settings.hashToken)
    (p : Presented) : Family settings (t.rotateSession settings p).2 := by
  have outcome := rotateSession_rotation settings t p
  generalize t.rotateSession settings p = r at outcome
  cases outcome with
  | exchanged hs current live => exact f.exchanged hash hs current
  | duplicate hs live => exact f
  | refused e => exact f
  | reused hs => exact f.revoked hs p.later

theorem family_of_reachable (hash : Function.Injective settings.hashToken)
    (h : (familySystem settings).Reachable t) : Family settings t := by
  refine h.invariant ?_ ?_
  · intro t init
    have none {s : RefreshSession} (hs : s ∈ t.sessions) : False := by
      rw [init.1] at hs
      cases hs
    refine ⟨?_, fun s hs => (none hs).elim, fun s hs => (none hs).elim, fun s hs => (none hs).elim,
      ?_, fun s hs => (none hs).elim, fun s hs => (none hs).elim⟩
    · rw [init.1]
      exact .nil
    · intro h hh
      rw [init.2] at hh
      cases hh
  · intro t call t' _ f step
    cases call with
    | createSession now user id raw csrf =>
      obtain ⟨fresh, apart, rfl⟩ := step
      exact f.created fresh apart
    | rotateSession p =>
      obtain rfl := step
      exact f.rotation hash p
    | revokeSession now id =>
      obtain rfl := step
      exact f.revokeSession now id

/-- The sessions stay, with their absolute expiry and their revocation. -/
def Endures (t t' : SessionTable) : Prop :=
  ∀ s ∈ t.sessions, ∃ s' ∈ t'.sessions, s'.id = s.id ∧
    s'.absoluteExpiresAt = s.absoluteExpiresAt ∧ (s.revokedAt.isSome → s'.revokedAt.isSome)

theorem Endures.refl (t : SessionTable) : Endures t t := fun s hs => ⟨s, hs, rfl, rfl, fun h => h⟩

theorem Endures.trans {t t' t'' : SessionTable} (h : Endures t t') (h' : Endures t' t'') :
    Endures t t'' := by
  intro s hs
  obtain ⟨s', hs', id, absolute, revoked⟩ := h s hs
  obtain ⟨s'', hs'', id', absolute', revoked'⟩ := h' s' hs'
  exact ⟨s'', hs'', id'.trans id, absolute'.trans absolute, fun r => revoked' (revoked r)⟩

theorem endures_map {history : List RefreshTokenHistory} {g : RefreshSession → RefreshSession}
    (h : ∀ s ∈ t.sessions, (g s).id = s.id ∧ (g s).absoluteExpiresAt = s.absoluteExpiresAt ∧
      (s.revokedAt.isSome → (g s).revokedAt.isSome)) :
    Endures t { t with sessions := t.sessions.map g, history := history } :=
  fun s hs => ⟨g s, List.mem_map_of_mem hs, h s hs⟩

/-- Writing a row back with the same expiry, and not less revoked. -/
theorem endures_put (f : Family settings t) {history : List RefreshTokenHistory}
    {s s' : RefreshSession} (hs : s ∈ t.sessions) (id : s'.id = s.id)
    (absolute : s'.absoluteExpiresAt = s.absoluteExpiresAt)
    (revoked : s.revokedAt.isSome → s'.revokedAt.isSome) :
    Endures t { t.put s' with history := history } := by
  refine endures_map fun x hx => ?_
  split_ifs with same
  · obtain rfl := f.eq_of_id hx hs (same.trans id)
    exact ⟨id, absolute, revoked⟩
  · exact ⟨rfl, rfl, fun h => h⟩

theorem endures_step (f : Family settings t) {call : SessionCall}
    (step : (familySystem settings).Step t call t') : Endures t t' := by
  cases call with
  | createSession now user id raw csrf =>
    obtain ⟨-, -, rfl⟩ := step
    exact fun s hs => ⟨s, List.mem_append_left _ hs, rfl, rfl, fun h => h⟩
  | rotateSession p =>
    obtain rfl := step
    have outcome := rotateSession_rotation settings t p
    generalize t.rotateSession settings p = r at outcome
    cases outcome with
    | exchanged hs current live => exact endures_put f hs rfl rfl fun h => h
    | duplicate hs live => exact .refl t
    | refused e => exact .refl t
    | @reused s hs => exact endures_put f hs rfl rfl fun _ => rfl
  | revokeSession now id =>
    obtain rfl := step
    refine endures_map fun x hx => ?_
    split_ifs with open_
    · exact ⟨rfl, rfl, fun _ => rfl⟩
    · exact ⟨rfl, rfl, fun h => h⟩

theorem endures_steps (hash : Function.Injective settings.hashToken)
    (h : (familySystem settings).Reachable t) (steps : (familySystem settings).Steps t t') :
    Endures t t' :=
  h.guarantee (G := Endures) Endures.refl (fun _ _ _ => Endures.trans)
    (fun _ _ _ reachable step => endures_step (family_of_reachable hash reachable) step) steps

/-- The session of the tokens that `rotate_session` returns was not revoked, and not expired at one of
the two readings of the clock. -/
theorem tokens_of_open_session {tokens : SessionTokens}
    (h : (t.rotateSession settings p).1 = .ok tokens) :
    ∃ s ∈ t.sessions, s.id = tokens.session.id ∧ s.revokedAt = none ∧
      (p.now < s.absoluteExpiresAt ∨ p.later < s.absoluteExpiresAt) := by
  have outcome := rotateSession_rotation settings t p
  generalize t.rotateSession settings p = r at outcome h
  cases outcome with
  | exchanged hs current live =>
    cases h
    exact ⟨_, hs, rfl, live.1, .inl live.2.2⟩
  | duplicate hs live =>
    cases h
    exact ⟨_, hs, rfl, live.1, .inr live.2.2⟩
  | refused e => cases h
  | reused hs => cases h

end Steps

/-! ## Replays -/

/-- The proofs that `any(compare_digest(...))` compares before it is done are ASCII. -/
def Comparable (csrfToken : String) : List String → Prop
  | [] => True
  | proof :: proofs => isAscii proof = true ∧ (proof = csrfToken ∨ Comparable csrfToken proofs)

theorem anyProof_of_comparable {csrfToken : String} (ascii : isAscii csrfToken = true)
    {proofs : List String} (h : Comparable csrfToken proofs) :
    anyProof csrfToken proofs = .ok (decide (csrfToken ∈ proofs)) := by
  induction proofs with
  | nil => rfl
  | cons proof proofs ih =>
    obtain ⟨asciiProof, rest⟩ := h
    have digest : compareDigest proof csrfToken = .ok (decide (proof = csrfToken)) := by
      rw [compareDigest, asciiProof, ascii]
      rfl
    by_cases same : proof = csrfToken
    · rw [anyProof, digest, same]
      simp [bind, Except.bind, pure, Except.pure]
    · rw [anyProof, digest]
      have other : csrfToken ≠ proof := fun e => same e.symm
      simp only [bind, Except.bind, same, decide_false, Bool.false_eq_true, if_false]
      rw [ih (rest.resolve_left same)]
      simp [other]

theorem anyProof_of_not_comparable {csrfToken : String} (ascii : isAscii csrfToken = true)
    {proofs : List String} (h : ¬ Comparable csrfToken proofs) :
    ∃ message, anyProof csrfToken proofs = .error (.typeError message) := by
  induction proofs with
  | nil => exact absurd trivial h
  | cons proof proofs ih =>
    by_cases asciiProof : isAscii proof = true
    · have digest : compareDigest proof csrfToken = .ok (decide (proof = csrfToken)) := by
        rw [compareDigest, asciiProof, ascii]
        rfl
      have other : proof ≠ csrfToken := fun same => h ⟨asciiProof, .inl same⟩
      obtain ⟨message, raised⟩ := ih fun rest => h ⟨asciiProof, .inr rest⟩
      refine ⟨message, ?_⟩
      rw [anyProof, digest]
      simp only [bind, Except.bind, other, decide_false, Bool.false_eq_true, if_false]
      exact raised
    · refine ⟨"comparing strings with non-ASCII characters is not supported", ?_⟩
      rw [anyProof, compareDigest, Bool.eq_false_iff.2 asciiProof]
      rfl

variable (settings : SessionSettings)

/-- The presented token is the immediate predecessor of the current one and was consumed within the
grace, and the session is still open to its user. -/
def PresentsDuplicate (p : Presented) (h : RefreshTokenHistory) (s : RefreshSession) : Prop :=
  DuplicateIsCurrent p.later h s (p.user s.userId).isActive
    (settings.hashToken (settings.successorRefreshToken p.raw))

/-- A duplicate returns the current token to a request with the proof of the session, asks any other to
retry, and leaves the session alone; every other replay fails and leaves the session revoked. -/
def SafeReplay (t : SessionTable) (p : Presented) (h : RefreshTokenHistory) (s : RefreshSession) :
    Prop :=
  (PresentsDuplicate settings p h s →
    (s.csrfToken ∈ p.proofs → ∃ tokens, (t.rotateSession settings p).1 = .ok tokens ∧
      tokens.session = s ∧ settings.hashToken tokens.refreshToken = s.refreshTokenHash) ∧
    (s.csrfToken ∉ p.proofs → ∃ message,
      (t.rotateSession settings p).1 = .error (.refreshOverlapRetry message)) ∧
    (t.rotateSession settings p).2.get s.id = some s) ∧
  (¬ PresentsDuplicate settings p h s →
    (∃ message, (t.rotateSession settings p).1 = .error (.tokenFlow message)) ∧
    ∃ s', (t.rotateSession settings p).2.get s.id = some s' ∧ s'.revokedAt.isSome)

section Replays

variable {settings} {t : SessionTable} {p : Presented} {h : RefreshTokenHistory} {s : RefreshSession}

theorem get_put (hs : s ∈ t.sessions) {s' : RefreshSession}
    (id : s'.id = s.id) : (t.put s').get s.id = some s' := by
  have written : s' ∈ (t.put s').sessions := by
    refine List.mem_map.2 ⟨s, hs, ?_⟩
    rw [if_pos id.symm]
  unfold get
  cases found : (t.put s').sessions.find? fun x => x.id = s.id with
  | none =>
    have absent := List.find?_eq_none.1 found s' written
    simp [id] at absent
  | some x =>
    have same : x.id = s.id := by simpa using List.find?_some found
    obtain ⟨y, hy, rfl⟩ := List.mem_map.1 (List.mem_of_find?_eq_some found)
    split_ifs at same ⊢ with written
    · rfl
    · exact absurd (same.trans id.symm) written

/-- A replay is safe exactly when the proofs of a duplicate can be compared. -/
theorem safeReplay_iff (f : Family settings t) (hash : Function.Injective settings.hashToken)
    (hs : s ∈ t.sessions) (hh : h ∈ t.history) (id : h.sessionId = s.id)
    (raw : h.tokenHash = settings.hashToken p.raw) :
    SafeReplay settings t p h s ↔
      (PresentsDuplicate settings p h s → Comparable s.csrfToken p.proofs) := by
  have replayed := f.rotateSession_consumed hash hs hh id raw
  unfold SafeReplay
  rw [replayed]
  unfold replay PresentsDuplicate
  dsimp only
  split_ifs with duplicate
  · by_cases comparable : Comparable s.csrfToken p.proofs
    · rw [anyProof_of_comparable (f.ascii s hs) comparable]
      refine iff_of_true ⟨fun _ => ?_, absurd duplicate⟩ fun _ => comparable
      by_cases proof : s.csrfToken ∈ p.proofs
      · simp only [proof, decide_true]
        exact ⟨fun _ => ⟨_, rfl, rfl, duplicate.2.2.2.symm⟩, fun missing => absurd trivial missing,
          f.get_eq hs⟩
      · simp only [proof, decide_false]
        exact ⟨fun present => present.elim, fun _ => ⟨_, rfl⟩, f.get_eq hs⟩
    · obtain ⟨message, raised⟩ := anyProof_of_not_comparable (f.ascii s hs) comparable
      rw [raised]
      refine iff_of_false (fun safe => ?_) fun all => comparable (all duplicate)
      obtain ⟨answered, refused, -⟩ := safe.1 duplicate
      by_cases proof : s.csrfToken ∈ p.proofs
      · obtain ⟨tokens, ok, -⟩ := answered proof
        cases ok
      · obtain ⟨message, retry⟩ := refused proof
        cases retry
  · refine iff_of_true
      ⟨fun now => absurd now duplicate, fun _ => ⟨⟨_, rfl⟩, s.revoke p.later, ?_, rfl⟩⟩
      fun now => absurd now duplicate
    exact get_put hs rfl

/-- The tokens of a session form a chain; a replay is safe exactly when the proofs of a duplicate can be
compared; a revoked or expired session yields no tokens; the idle expiry of a rotated session stays
within the absolute one, which does not change. -/
theorem refresh_family_safe (hash : Function.Injective settings.hashToken)
    (reachable : (familySystem settings).Reachable t) :
    (∀ s ∈ t.sessions, ∃ n, t.Chain settings s n) ∧
    (∀ s ∈ t.sessions, t.consumed s.id ≠ [] → s.idleExpiresAt ≤ s.absoluteExpiresAt) ∧
    (∀ p, ∀ s ∈ t.sessions, ∀ h ∈ t.history, h.sessionId = s.id →
      h.tokenHash = settings.hashToken p.raw →
      (SafeReplay settings t p h s ↔
        (PresentsDuplicate settings p h s → Comparable s.csrfToken p.proofs))) ∧
    ∀ t', (familySystem settings).Steps t t' → ∀ s ∈ t.sessions,
      (∃ s' ∈ t'.sessions, s'.id = s.id ∧ s'.absoluteExpiresAt = s.absoluteExpiresAt) ∧
      ∀ p tokens, (t'.rotateSession settings p).1 = .ok tokens → tokens.session.id = s.id →
        s.revokedAt = none ∧ (p.now < s.absoluteExpiresAt ∨ p.later < s.absoluteExpiresAt) := by
  have f := family_of_reachable hash reachable
  refine ⟨f.chain, f.idle, ?_, ?_⟩
  · exact fun p s hs h hh id raw => safeReplay_iff f hash hs hh id raw
  · intro t' steps s hs
    obtain ⟨s', hs', id, absolute, revoked⟩ := endures_steps hash reachable steps s hs
    refine ⟨⟨s', hs', id, absolute⟩, fun p tokens ok same => ?_⟩
    obtain ⟨x, hx, idX, notRevoked, open_⟩ := tokens_of_open_session ok
    have f' := family_of_reachable hash (reachable.steps steps)
    obtain rfl := f'.eq_of_id hx hs' (idX.trans (same.trans id.symm))
    rw [absolute] at open_
    refine ⟨?_, open_⟩
    cases earlier : s.revokedAt with
    | none => rfl
    | some time =>
      rw [earlier, notRevoked] at revoked
      exact absurd (revoked rfl) (by simp)

end Replays

/-! ## A duplicate with a cookie that is not ASCII -/

/-- Token functions without collisions. -/
def sampleSettings : SessionSettings where
  sessionIdleMinutes := 30
  refreshTokenHours := 12
  hashToken token := "h" ++ token
  successorRefreshToken token := "s" ++ token

theorem sampleSettings_hash : Function.Injective sampleSettings.hashToken := by
  intro a b same
  exact String.append_right_inj "h" |>.1 same

theorem sampleSettings_length (i : Nat) (raw : String) :
    (sampleSettings.successorRefreshToken^[i] raw).length = i + raw.length := by
  induction i with
  | zero => simp
  | succ i ih =>
    have one : "s".length = 1 := by decide
    rw [Function.iterate_succ_apply']
    show ("s" ++ _ : String).length = _
    rw [String.length_append, ih, one]
    omega

def sampleUser : User := { id := "user", email := "user@example.gov", status := .active }

/-- The token of the new session is exchanged once. -/
def exchangedTable : SessionTable :=
  (((⟨[], [], fun _ => ""⟩ : SessionTable).createSession sampleSettings 0 sampleUser "session"
    ⟨"raw", by decide⟩ ⟨"csrf", by decide⟩).2.rotateSession sampleSettings
      ⟨"raw", [], fun _ => sampleUser, seconds 1, seconds 1⟩).2

/-- The exchanged token is presented again, one second later. -/
def duplicateRequest (proofs : List String) : Presented :=
  ⟨"raw", proofs, fun _ => sampleUser, seconds 2, seconds 2⟩

theorem exchangedTable_reachable : (familySystem sampleSettings).Reachable exchangedTable := by
  have initial : (familySystem sampleSettings).Reachable ⟨[], [], fun _ => ""⟩ := .init ⟨rfl, rfl⟩
  have created : (familySystem sampleSettings).Reachable
      ((⟨[], [], fun _ => ""⟩ : SessionTable).createSession sampleSettings 0 sampleUser "session"
        ⟨"raw", by decide⟩ ⟨"csrf", by decide⟩).2 := by
    refine initial.step (i := .createSession 0 sampleUser "session" ⟨"raw", by decide⟩
      ⟨"csrf", by decide⟩) ⟨fun s hs => (nomatch hs), ⟨fun i j same => ?_, fun s hs => (nomatch hs)⟩,
      rfl⟩
    have lengths := congrArg String.length same
    rw [sampleSettings_length, sampleSettings_length] at lengths
    omega
  exact created.step (i := .rotateSession ⟨"raw", [], fun _ => sampleUser, seconds 1, seconds 1⟩) rfl

/-- The session and the consumed token of the table. -/
def exchangedRow : RefreshSession where
  id := "session"
  userId := "user"
  refreshTokenHash := "hsraw"
  csrfToken := "csrf"
  createdAt := 0
  lastSeenAt := seconds 1
  idleExpiresAt := seconds 1801
  absoluteExpiresAt := seconds 43200

def consumedRow : RefreshTokenHistory := ⟨"session", "hraw", seconds 1⟩

theorem exchangedTable_rows :
    exchangedTable.sessions = [exchangedRow] ∧ exchangedTable.history = [consumedRow] := by
  decide +kernel

theorem exchangedTable_mem : exchangedRow ∈ exchangedTable.sessions ∧
    consumedRow ∈ exchangedTable.history := by
  rw [exchangedTable_rows.1, exchangedTable_rows.2]
  exact ⟨List.mem_singleton_self _, List.mem_singleton_self _⟩

/-- The duplicate with a proof that is not ASCII is neither answered nor refused. -/
theorem replay_raises_typeError :
    (familySystem sampleSettings).Reachable exchangedTable ∧
    exchangedRow ∈ exchangedTable.sessions ∧ consumedRow ∈ exchangedTable.history ∧
    consumedRow.tokenHash = sampleSettings.hashToken (duplicateRequest ["é"]).raw ∧
    (exchangedTable.rotateSession sampleSettings (duplicateRequest ["é"])).1 =
      .error (.typeError "comparing strings with non-ASCII characters is not supported") ∧
    ¬ SafeReplay sampleSettings exchangedTable (duplicateRequest ["é"]) consumedRow exchangedRow := by
  have raised : (exchangedTable.rotateSession sampleSettings (duplicateRequest ["é"])).1 =
      .error (.typeError "comparing strings with non-ASCII characters is not supported") := by rfl
  refine ⟨exchangedTable_reachable, exchangedTable_mem.1, exchangedTable_mem.2, rfl, raised, ?_⟩
  unfold SafeReplay
  rw [raised]
  rintro ⟨current, other⟩
  by_cases duplicate : PresentsDuplicate sampleSettings (duplicateRequest ["é"]) consumedRow exchangedRow
  · obtain ⟨message, retry⟩ := (current duplicate).2.1 (by decide)
    cases retry
  · obtain ⟨⟨message, flow⟩, -⟩ := other duplicate
    cases flow

/-- A duplicate with the proof of its session. -/
theorem refresh_family_safe_duplicate :
    SafeReplay sampleSettings exchangedTable (duplicateRequest ["csrf"]) consumedRow exchangedRow := by
  refine ((refresh_family_safe sampleSettings_hash exchangedTable_reachable).2.2.1
    (duplicateRequest ["csrf"]) exchangedRow exchangedTable_mem.1 consumedRow exchangedTable_mem.2 rfl
    rfl).2 fun _ => ?_
  exact ⟨by decide, .inl rfl⟩

end SessionTable

end DataMover
