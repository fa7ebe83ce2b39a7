import Acgps.Store.LockSteps

/-!
# The programs of the lock store

One specification for each function that the lock calls are made of, and from them one for each
call: what it has done when it returns, and when it can raise.

## Main Definitions

* `Steady`, `Calm` - no other call commits while the digest is read, or after the commit
* `CallPost` - what a call ends with

## Key Theorems

* `reconcileAuthorityMarker_secure` - the reconciliation fails only on a torn read
* `commitAuthorityTransaction_secure` - a commit raises only when another one follows at once
* `lockCode_secure` - every call, among any others
-/

namespace Acgps

open Checked RelyGuarantee Relation

variable [Digest] {window : LockWindow} {identity : AuthorityIdentity} {i : Nat} {c : LockCall}
  {past : List LockEvent} {w : LockStore}

/-! ## Section 1: Reading the authority -/

/-- No other call commits between the generation that a connection reads and the digest. -/
def Steady (window : LockWindow) (c : LockCall) (committed : Prop) : Prop :=
  window c committed (some .selectAuthority) ∧ window c committed (some .selectLocks)

/-- What a reconciliation ends with: no commit, the same transaction, and an error only for a torn
read outside a transaction. -/
structure Reconciled (window : LockWindow) (i : Nat) (c : LockCall) (s : Option LockTables)
    (past past' : List LockEvent) (r : Except Failure (Nat × String)) (w : LockStore) : Prop where
  commits : commits past' = commits past
  session : Session i s w
  steady : ∀ e, r = .error e → s = none ∧ ¬ Steady window c (Acgps.commits past ≠ [])
  value : ∀ p tables, r = .ok p → s = some tables → p = (tables.generation, tables.digest)

/-- **The digest of two statements.** `t` are tables seen before; the tables stay the same when
the connection has a transaction, or under a condition on which nobody else commits. -/
theorem readAuthorityDigest_secure (view : LockStore → LockTables) (t : LockTables) (quiet : Prop)
    {s : Option LockTables} {authority locks : LockStatement}
    (hview : ∀ v, Session i s v → view v = v.tables)
    (hauthority : authority ≠ .commit) (hlocks : locks ≠ .commit)
    (hquiet : quiet → window c (commits past ≠ []) (some authority) ∧
      window c (commits past ≠ []) (some locks))
    (hs : Session i s w) (hsince : Since t w.tables)
    (hfixed : s ≠ none ∨ quiet → w.tables = t) :
    LockSecure window identity i c
      (fun past' r w' => ∃ t₁ t₂, commits past' = commits past ∧ Session i s w' ∧ Since t t₁ ∧
        Since t₁ t₂ ∧ Since t₂ w'.tables ∧ (s ≠ none ∨ quiet → w'.tables = t) ∧
        r = .ok (controlStoreAuthorityDigest t₁.identity t₁.generation t₂.locks))
      past (readAuthorityDigest view authority locks) w := by
  -- what is known between two statements, relative to tables seen before
  have hstable : ∀ {past' next} {t' : LockTables} {v v'}, commits past' = commits past →
      (quiet → window c (commits past ≠ []) next) → Relies window i c past' next v v' →
      Session i s v ∧ Since t' v.tables ∧ (s ≠ none ∨ quiet → v.tables = t) →
      Session i s v' ∧ Since t' v'.tables ∧ (s ≠ none ∨ quiet → v'.tables = t) := by
    rintro past' next t' v v' hpast' hnext hrely ⟨hsession, hsince, hfixed⟩
    refine ⟨hrely.session hsession, hsince.trans hrely.since, fun hcase => ?_⟩
    rw [← hfixed hcase]
    rcases hcase with hsome | hq
    · cases s with
      | none => exact absurd rfl hsome
      | some tables => exact (hrely.session hsession).2.trans hsession.2.symm
    · exact hrely.tables_eq (hpast' ▸ hnext hq)
  unfold readAuthorityDigest
  apply secure_read (fun v v' hrely => hstable rfl (fun hq => (hquiet hq).1) hrely)
    ⟨hs, hsince, hfixed⟩
  intro v₁ hv₁ _
  rw [hview v₁ hv₁.1]
  apply secure_read (fun v v' hrely => hstable (by simp [hauthority]) (fun hq => (hquiet hq).2)
    hrely) ⟨hv₁.1, Since.refl v₁.tables, hv₁.2.2⟩
  intro v₂ hv₂ _
  rw [hview v₂ hv₂.1]
  exact ⟨v₁.tables, v₂.tables, by simp [hauthority, hlocks], hv₂.1, hv₁.2.1, hv₂.2.1, .refl _,
    hv₂.2.2, rfl⟩

/-- Tables that come after `t` and before `t` again are `t`: the digest is the digest of `t`. -/
theorem digest_of_fixed {t t₁ t₂ : LockTables} (h₁ : Since t t₁) (h₂ : Since t₁ t₂)
    (h₃ : Since t₂ t) :
    controlStoreAuthorityDigest t₁.identity t₁.generation t₂.locks = t.digest :=
  (Recorded.of_reads h₁ h₂ h₃).2 rfl

/-- **The reconciliation.** A marker that was recorded when it was read is matched or replaced,
unless a commit of another call tears the digest. -/
theorem reconcileAuthorityMarker_secure {s : Option LockTables} {marker : AuthorityMarker}
    (hs : Session i s w) (hidentity : marker.identity = identity)
    (hmarker : Recorded marker.generation marker.digest w.tables) :
    LockSecure window identity i c (Reconciled window i c s past) past
      (reconcileAuthorityMarker (LockStore.view i) marker) w := by
  subst hidentity
  have hknown : ∀ past' next v v', Relies window i c past' next v v' →
      Session i s v ∧ Recorded marker.generation marker.digest v.tables →
      Session i s v' ∧ Recorded marker.generation marker.digest v'.tables :=
    fun _ _ v v' hrely hv => ⟨hrely.session hv.1, hv.2.since hrely.since⟩
  apply Secure.bind (validateControlStoreConnection_secure (by decide) (hknown past _)
    ⟨hs, hmarker⟩ (fun v hv hinv => by rw [hv.1.view, hinv.tables]))
  · rintro past₀ _ w₀ ⟨hpast₀, hw₀, -⟩
    apply secure_read (hknown past₀ _) hw₀
    rintro v ⟨hsession, hrecorded⟩ _
    rw [hsession.view]
    have hpast₁ : commits (past₀ ++ [⟨.selectGeneration, v, v⟩]) = commits past := by
      simp [hpast₀]
    apply Secure.bind (readAuthorityDigest_secure (LockStore.view i) v.tables
      (Steady window c (commits past ≠ [])) (fun v hv => hv.view) (by decide)
      (by decide) (fun h => by rwa [hpast₁]) hsession (.refl _) (fun _ => rfl))
    · rintro past₂ digest w₁ ⟨t₁, t₂, hpast₂, hw₁, h₁, h₂, h₃, hfixed, hdigest⟩
      rw [hpast₁] at hpast₂
      obtain rfl := Except.ok.inj hdigest
      have hsame : s ≠ none ∨ Steady window c (commits past ≠ []) →
          controlStoreAuthorityDigest t₁.identity t₁.generation t₂.locks = v.tables.digest :=
        fun hcase => digest_of_fixed h₁ h₂ (hfixed hcase ▸ h₃)
      have hvalue : ∀ tables, s = some tables →
          (v.tables.generation, controlStoreAuthorityDigest t₁.identity t₁.generation t₂.locks) =
            (tables.generation, tables.digest) := by
        rintro tables rfl
        rw [hsame (.inl (by simp)), hsession.2]
      split_ifs with hmatch hgreater
      · exact ⟨hpast₂, hw₁, (fun e he => by cases he),
          fun p tables hp hs => by rw [← Except.ok.inj hp]; exact hvalue tables hs⟩
      · -- the marker is behind: what was read is recorded, torn or not
        apply secure_write (P := fun v' => Session i s v' ∧ Recorded v.tables.generation
          (controlStoreAuthorityDigest t₁.identity t₁.generation t₂.locks) v'.tables)
        · exact fun v₁ v₂ hrely hv => ⟨hrely.session hv.1, hv.2.since hrely.since⟩
        · exact ⟨hw₁, Recorded.of_reads h₁ h₂ h₃⟩
        · exact fun v' hv' hinv' => .publish hinv'.marker.symm hv'.2
        · exact fun v' hv' _ => ⟨by simp [hpast₂], hv'.1.publish, (fun e he => by cases he),
            fun p tables hp hs => by rw [← Except.ok.inj hp]; exact hvalue tables hs⟩
      · -- the generation of the marker with another digest: the read was torn
        have htorn : ¬ (s ≠ none ∨ Steady window c (commits past ≠ [])) := by
          intro hcase
          have hequal : marker.generation = v.tables.generation := by
            have := hrecorded.1
            omega
          exact hmatch ⟨hequal.symm, (hsame hcase).trans (hrecorded.2 hequal).symm⟩
        refine ⟨hpast₂, hw₁, fun e _ => ?_, fun p tables hp => by cases hp⟩
        exact ⟨not_not.mp (fun hs => htorn (.inl hs)), fun h => htorn (.inr h)⟩
    · rintro _ _ _ ⟨_, _, _, _, _, _, _, _, hdigest⟩
      cases hdigest
  · rintro _ _ _ ⟨-, -, hr⟩
    cases hr

/-- **A control connection** opens on the committed tables, unless the digest was torn. -/
theorem openControlConnection_secure (hs : Session i none w) :
    LockSecure window identity i c
      (fun past' r w' => commits past' = commits past ∧ Session i none w' ∧
        ∀ e, r = .error e → ¬ Steady window c (commits past ≠ []))
      past (openControlConnection i identity) w := by
  unfold openControlConnection
  apply secure_read (fun _ _ hrely => hrely.session) hs
  intro v hv hinv
  rw [requireMarkerIdentity_eq hinv.marker]
  have hpast : commits (past ++ [⟨.readMarker, v, v⟩]) = commits past := by simp
  apply Secure.bind (reconcileAuthorityMarker_secure hv hinv.marker hinv.recorded)
  · exact fun past' _ w' h => ⟨h.commits.trans hpast, h.session, fun e he => by cases he⟩
  · intro past' e w' h
    exact ⟨h.commits.trans hpast, h.session, fun _ _ => hpast ▸ (h.steady e rfl).2⟩

/-! ## Section 2: Transactions -/

/-- `BEGIN IMMEDIATE` opens a transaction on the committed tables, or fails. -/
theorem beginImmediate_secure (hs : Session i none w) :
    LockSecure window identity i c
      (fun past' r w' => commits past' = commits past ∧ (∀ e, r = .error e → Session i none w') ∧
        (r = .ok () → ∃ tables, Inside i tables tables w'))
      past (beginImmediate i) w := by
  intro v hrely _
  have hv : Session i none v := star_keeps (fun _ _ hrely => hrely.session) hrely hs
  cases hfree : v.transaction with
  | some _ =>
      simp only [hfree, Option.isNone_some, Bool.false_eq_true, if_false]
      exact ⟨.look v, by simp, fun _ _ => hv, fun hr => by cases hr⟩
  | none =>
      simp only [hfree, Option.isNone_none, if_true]
      exact ⟨.begin hfree, by simp, (fun e he => by cases he), fun _ => ⟨v.tables, rfl, rfl⟩⟩

/-- **The begin of a transaction** returns the generation and the digest of the tables. -/
theorem beginAuthorityTransaction_secure (hs : Session i none w) :
    LockSecure window identity i c
      (fun past' r w' => commits past' = commits past ∧ (∀ e, r = .error e → Session i none w') ∧
        ∀ p, r = .ok p → ∃ tables, Inside i tables tables w' ∧
          p = (tables.generation, tables.digest))
      past (beginAuthorityTransaction i identity) w := by
  unfold beginAuthorityTransaction
  apply Secure.bind (beginImmediate_secure hs)
  · rintro past₁ _ w₁ ⟨hpast₁, -, hbegun⟩
    obtain ⟨tables, hw₁⟩ := hbegun rfl
    apply secure_read (P := Session i (some tables)) (fun _ _ hrely => hrely.session) hw₁
    intro v hv hinv
    rw [requireMarkerIdentity_eq hinv.marker]
    apply (reconcileAuthorityMarker_secure hv hinv.marker hinv.recorded).mono
    intro past' r w' h
    refine ⟨h.commits.trans (by simp [hpast₁]), fun e he => ?_, fun p hp => ?_⟩
    · -- inside a transaction nobody tears the digest
      cases (h.steady e he).1
    · exact ⟨tables, h.session, h.value p tables hp rfl⟩
  · exact fun past' e w' h => ⟨h.1, fun _ _ => h.2.1 e rfl, fun p hp => by cases hp⟩

/-- The digest of a copy that its transaction has changed. -/
theorem readAuthorityDigest_inside {tables copy : LockTables} {authority locks : LockStatement}
    (hauthority : authority ≠ .commit) (hlocks : locks ≠ .commit) (hs : Inside i tables copy w) :
    LockSecure window identity i c
      (fun past' r w' => commits past' = commits past ∧ Inside i tables copy w' ∧
        r = .ok copy.digest)
      past (readAuthorityDigest (LockStore.view i) authority locks) w := by
  unfold readAuthorityDigest
  apply secure_read (fun _ _ hrely => hrely.inside) hs
  intro v hv _
  rw [hv.view]
  apply secure_read (fun _ _ hrely => hrely.inside) hv
  intro v' hv' _
  rw [hv'.view]
  exact ⟨by simp [hauthority, hlocks], hv', rfl⟩

/-- No other call commits between a commit and the end of its re-read. -/
def Calm (window : LockWindow) (c : LockCall) : Prop :=
  ∀ l ∈ [LockStatement.validateCommitted, .selectCommittedGeneration, .selectCommittedAuthority,
    .selectCommittedLocks], window c True (some l)

/-- What a call knows after its commit: its transaction is over, the tables it committed or later
ones are there, and so is the row of an acquisition. -/
structure AfterCommit (i : Nat) (c : LockCall) (copy : LockTables) (w : LockStore) : Prop where
  session : Session i none w
  since : Since copy w.tables
  row : ∀ a, c = .acquire a → a.row ∈ w.tables.locks

theorem AfterCommit.stable {copy : LockTables} {past : List LockEvent}
    {next : Option LockStatement} {w w' : LockStore} (hrely : Relies window i c past next w w')
    (h : AfterCommit i c copy w) : AfterCommit i c copy w' where
  session := hrely.session h.session
  since := h.since.trans hrely.since
  row := by
    rintro a rfl
    exact hrely.row (h.row a rfl)

/-- **The re-read** of what was committed fails only when another call commits before it is over. -/
theorem requireCommitLanded_secure {copy : LockTables} (hcommitted : commits past ≠ [])
    (hafter : AfterCommit i c copy w) (hw : Calm window c → w.tables = copy) :
    LockSecure window identity i c
      (fun past' r w' => commits past' = commits past ∧ AfterCommit i c copy w' ∧
        ∀ e, r = .error e → ¬ Calm window c)
      past (requireCommitLanded identity copy.generation copy.digest) w := by
  have hstable : ∀ {past' l v v'}, commits past' = commits past →
      l ∈ [LockStatement.validateCommitted, .selectCommittedGeneration, .selectCommittedAuthority,
        .selectCommittedLocks] → Relies window i c past' (some l) v v' →
      AfterCommit i c copy v ∧ (Calm window c → v.tables = copy) →
      AfterCommit i c copy v' ∧ (Calm window c → v'.tables = copy) := by
    rintro past' l v v' hpast' hl hrely ⟨hv, htables⟩
    refine ⟨hv.stable hrely, fun hcalm => ?_⟩
    rw [← htables hcalm]
    apply hrely.tables_eq
    rw [hpast', eq_true hcommitted]
    exact hcalm l hl
  unfold requireCommitLanded
  apply Secure.bind (validateControlStoreConnection_secure (by decide)
    (fun v v' hrely => hstable rfl (by simp) hrely) ⟨hafter, hw⟩
    (fun v _ hinv => hinv.tables))
  · rintro past₁ _ w₁ ⟨hpast₁, hw₁, -⟩
    apply secure_read (fun v v' hrely => hstable hpast₁ (by simp) hrely) hw₁
    rintro v ⟨hv, hcopy⟩ _
    have hpast₂ : commits (past₁ ++ [⟨.selectCommittedGeneration, v, v⟩]) = commits past := by
      simp [hpast₁]
    have hrow : ∀ a, c = .acquire a → a.row ∈ v.tables.locks := hv.row
    apply Secure.bind ((readAuthorityDigest_secure (s := none) (·.tables) copy
      (Calm window c) (fun _ _ => rfl) (by decide) (by decide)
      (fun hcalm => by
        rw [hpast₂, eq_true hcommitted]
        exact ⟨hcalm _ (by simp), hcalm _ (by simp)⟩)
      hv.session hv.since (fun hcase => hcopy (hcase.resolve_left (by simp)))).frame
        (F := fun v => ∀ a, c = .acquire a → a.row ∈ v.tables.locks) ?_ ?_ hrow)
    · rintro past₃ digest w₃ ⟨⟨t₁, t₂, hpast₃, hw₃, h₁, h₂, h₃, hfixed, hdigest⟩, hrow⟩
      obtain rfl := Except.ok.inj hdigest
      have hpast : commits past₃ = commits past := hpast₃.trans hpast₂
      have hsince : Since copy w₃.tables := h₁.trans (h₂.trans h₃)
      split_ifs with hbad
      · refine ⟨hpast, ⟨hw₃, hsince, hrow⟩, fun e _ hcalm => ?_⟩
        rcases hbad with hbad | hbad
        · exact hbad (congrArg LockTables.generation (hcopy hcalm))
        · exact hbad (digest_of_fixed h₁ h₂ (hfixed (.inr hcalm) ▸ h₃))
      · exact ⟨hpast, ⟨hw₃, hsince, hrow⟩, fun e he => by cases he⟩
    · rintro _ _ _ ⟨⟨_, _, _, _, _, _, _, _, hdigest⟩, _⟩
      cases hdigest
    · rintro _ _ _ _ hrely hF a rfl
      exact hrely.row (hF a rfl)
    · rintro event hstep hF a rfl
      exact hstep.keeps_row (hF a rfl) (fun lock hc => by cases hc)
  · rintro _ _ _ ⟨-, -, hr⟩
    cases hr

/-- The marker of a commit is published, or a newer one is left alone. -/
theorem publishAuthorityMarker_secure {copy : LockTables} {generation : Nat} {digest : String}
    (hafter : AfterCommit i c copy w) :
    LockSecure window identity i c
      (fun past' r w' => commits past' = commits past ∧ AfterCommit i c copy w' ∧ r = .ok ())
      past (publishAuthorityMarker identity copy.generation copy.digest generation digest) w := by
  unfold publishAuthorityMarker
  apply secure_read (fun _ _ hrely hv => AfterCommit.stable hrely hv) hafter
  intro v hv _
  split_ifs
  · exact ⟨by simp, hv, rfl⟩
  · intro v' hrely hinv'
    have hv' : AfterCommit i c copy v' :=
      star_keeps (P := AfterCommit i c copy) (fun _ _ hrely hv => AfterCommit.stable hrely hv)
        hrely hv
    exact ⟨.publish hinv'.marker.symm ((Recorded.self copy).since hv'.since), by simp,
      ⟨hv'.session.publish, hv'.since, hv'.row⟩, rfl⟩

/-- **The commit.** The rows it leaves are those of its copy, and it raises only when another call
commits before the re-read is over. -/
theorem commitAuthorityTransaction_secure {tables copy : LockTables} {previousDigest : String}
    (hs : Inside i tables copy w) (hidentity : copy.identity = tables.identity)
    (hgeneration : copy.generation = tables.generation)
    (hchanges : Changes c tables.locks copy.locks) :
    LockSecure window identity i c
      (fun past' r w' => (∃ event ∈ commits past', event.after.tables.locks = copy.locks) ∧
        AfterCommit i c { copy with generation := copy.generation + 1 } w' ∧
        ∀ e, r = .error e → ¬ Calm window c)
      past (commitAuthorityTransaction i identity tables.generation previousDigest) w := by
  have hnext : ∃ next : LockTables, { copy with generation := copy.generation + 1 } = next ∧
      next.identity = tables.identity ∧ next.generation = tables.generation + 1 ∧
      next.locks = copy.locks := ⟨_, rfl, hidentity, by rw [hgeneration], rfl⟩
  obtain ⟨next, heq, hidentity, hgeneration, hlocks⟩ := hnext
  rw [heq, ← hlocks]
  rw [← hlocks] at hchanges
  unfold commitAuthorityTransaction
  apply secure_write (fun _ _ hrely => hrely.inside) hs
  · intro v hv _
    simp only [LockStore.edit, hv.1, if_true]
    exact .edit hv.1
  intro v hv _
  have hedited : Inside i tables next
      (v.edit i (fun tables => { tables with generation := tables.generation + 1 })) := by
    simp only [LockStore.edit, hv.1, if_true, heq]
    exact ⟨rfl, hv.2⟩
  apply secure_read (fun _ _ hrely => hrely.inside) hedited
  intro v₁ hv₁ _
  rw [hv₁.view, hgeneration, ← hgeneration]
  apply Secure.bind (readAuthorityDigest_inside (by decide) (by decide) hv₁)
  · rintro past₂ digest v₂ ⟨-, hv₂, hdigest⟩
    obtain rfl := Except.ok.inj hdigest
    rw [if_neg (by simp [hgeneration])]
    apply secure_write (fun _ _ hrely => hrely.inside) hv₂
    · intro v₃ hv₃ _
      simp only [LockStore.commit, hv₃.1, if_true]
      exact .commit hv₃.1 (hidentity.trans (by rw [hv₃.2])) (hgeneration.trans (by rw [hv₃.2]))
        (by rw [hv₃.2]; exact hchanges)
    intro v₃ hv₃ _
    have hcommit : v₃.commit i = { v₃ with tables := next, transaction := none } := by
      simp only [LockStore.commit, hv₃.1, if_true]
    rw [hcommit]
    have hlanded : AfterCommit i c next { v₃ with tables := next, transaction := none } := by
      refine ⟨fun copy hown => (by cases hown), .refl _, ?_⟩
      rintro a rfl
      show a.row ∈ next.locks
      rw [hchanges.1]
      simp
    have hmade : ∀ past', commits past' =
        commits (past₂ ++ [⟨.commit, v₃, { v₃ with tables := next, transaction := none }⟩]) →
        ∃ event ∈ commits past', event.after.tables.locks = next.locks := by
      intro past' hpast'
      rw [hpast']
      exact ⟨⟨.commit, v₃, { v₃ with tables := next, transaction := none }⟩, by simp, rfl⟩
    apply Secure.bind (requireCommitLanded_secure (by simp) hlanded (fun _ => rfl))
    · rintro past₄ _ w₄ ⟨hpast₄, hw₄, -⟩
      apply Secure.bind (publishAuthorityMarker_secure hw₄)
      · exact fun past₅ _ w₅ h => ⟨hmade past₅ (h.1.trans hpast₄), h.2.1, fun e he => by cases he⟩
      · rintro _ _ _ ⟨-, -, hr⟩
        cases hr
    · exact fun past₄ e w₄ h => ⟨hmade past₄ h.1, h.2.1, fun _ _ => h.2.2 e rfl⟩
  · rintro _ _ _ ⟨-, -, hr⟩
    cases hr

/-! ## Section 3: The calls -/

/-- The end of a connection drops what is left of its transaction. -/
theorem closing_secure {α : Type} {body : LockCode α}
    {Q K : List LockEvent → Except Failure α → LockStore → Prop}
    (h : LockSecure window identity i c Q past body w)
    (hQ : ∀ past' r w' v, Q past' r w' →
      ReflTransGen (Relies window i c past' (some .close)) w' v →
      K (past' ++ [⟨.close, v, v.dropTransaction i⟩]) r (v.dropTransaction i)) :
    LockSecure window identity i c K past (closing i body) w := by
  apply Secure.andThen h
  intro past' r w' hr v hrely _
  exact ⟨.dropTransaction i c .close v, hQ past' r w' v hr hrely⟩

/-- The insertion of a lock: the task was free, or the transaction is rolled back. -/
theorem insertTaskLock_secure {a : AcquireTaskLock} {tables : LockTables}
    (hs : Inside i tables tables w) :
    LockSecure window identity i c
      (fun past' r w' => commits past' = commits past ∧ (r = .ok () →
        Inside i tables { tables with locks := tables.locks ++ [a.row] } w' ∧
        ∀ row ∈ tables.locks, row.taskId ≠ a.taskId.val))
      past (insertTaskLock i a) w := by
  intro v hrely _
  have hv : Inside i tables tables v := star_keeps (fun _ _ hrely => hrely.inside) hrely hs
  by_cases hconflict : tables.locks.any (·.taskId = a.taskId.val)
  · simp only [hv.view, hconflict, if_true]
    refine ⟨.look v, fun v' _ _ => ⟨.dropTransaction i c .rollback v', ?_⟩⟩
    exact ⟨by simp, fun hr => by cases hr⟩
  · simp only [hv.view, if_neg hconflict, LockStore.edit, hv.1, if_true]
    refine ⟨.edit hv.1, by simp, fun _ => ⟨⟨rfl, hv.2⟩, fun row hrow htask => ?_⟩⟩
    exact hconflict (List.any_eq_true.mpr ⟨row, hrow, by simpa using htask⟩)

/-- The transaction of an acquisition: it commits the row and returns, or it raises; it raises
after the commit only when another call commits at once. -/
theorem acquireTransaction_secure {a : AcquireTaskLock} (hpast : commits past = [])
    (hs : Session i none w) :
    LockSecure window identity i (.acquire a)
      (fun past' r w' => (∀ e, r = .error e → commits past' = [] ∨ ¬ Calm window (.acquire a)) ∧
        ∀ digest, r = .ok digest → Session i none w' ∧ a.row ∈ w'.tables.locks ∧
          ∃ event ∈ commits past', a.row ∈ event.after.tables.locks)
      past
      (do
        openControlConnection i identity
        let previous ← beginAuthorityTransaction i identity
        insertTaskLock i a
        commitAuthorityTransaction i identity previous.1 previous.2) w := by
  apply Secure.bind (openControlConnection_secure hs)
  · rintro past₁ _ w₁ ⟨hpast₁, hw₁, -⟩
    apply Secure.bind (beginAuthorityTransaction_secure hw₁)
    · rintro past₂ p w₂ ⟨hpast₂, -, hbegun⟩
      obtain ⟨tables, hw₂, rfl⟩ := hbegun p rfl
      apply Secure.bind (insertTaskLock_secure hw₂)
      · rintro past₃ _ w₃ ⟨-, hinserted⟩
        obtain ⟨hw₃, hfree⟩ := hinserted rfl
        have hchanges : Changes (.acquire a) tables.locks (tables.locks ++ [a.row]) := ⟨rfl, hfree⟩
        apply (commitAuthorityTransaction_secure hw₃ rfl rfl hchanges).mono
        rintro past₄ r w₄ ⟨⟨event, hevent, hlocks⟩, hafter, hcalm⟩
        refine ⟨fun e he => .inr (hcalm e he), fun digest _ => ?_⟩
        exact ⟨hafter.session, hafter.row a rfl, event, hevent, by rw [hlocks]; simp⟩
      · rintro past₃ e w₃ ⟨hpast₃, -⟩
        exact ⟨fun _ _ => .inl (hpast₃.trans (hpast₂.trans (hpast₁.trans hpast))),
          fun _ hr => by cases hr⟩
    · rintro past₂ e w₂ ⟨hpast₂, -, -⟩
      exact ⟨fun _ _ => .inl (hpast₂.trans (hpast₁.trans hpast)), fun _ hr => by cases hr⟩
  · rintro past₁ e w₁ ⟨hpast₁, -, -⟩
    exact ⟨fun _ _ => .inl (hpast₁.trans hpast), fun _ hr => by cases hr⟩

/-- No other call commits while a call that has committed reads what it compares. -/
def QuietAfterCommit (window : LockWindow) (c : LockCall) : Prop :=
  Calm window c ∧ Steady window c True

/-- **An acquisition** that returns has committed its row; one that raises has committed nothing,
unless another call commits right after it. -/
theorem acquireTaskLock_secure {a : AcquireTaskLock} (hpast : commits past = [])
    (hs : Session i none w) :
    LockSecure window identity i (.acquire a)
      (fun past' r _ =>
        (∀ e, r = .error e → commits past' = [] ∨ ¬ QuietAfterCommit window (.acquire a)) ∧
        ∀ lock, r = .ok lock → lock = a.lock ∧
          ∃ event ∈ past', a.row ∈ event.after.tables.locks)
      past (acquireTaskLock i identity a) w := by
  unfold acquireTaskLock
  apply secure_read (fun _ _ hrely => hrely.session) hs
  intro v hv _
  split_ifs
  · exact ⟨fun _ _ => .inl (by simp [hpast]), fun _ hr => by cases hr⟩
  -- the transaction
  apply Secure.bind (closing_secure (K := fun past' r w' =>
    (∀ e, r = .error e → commits past' = [] ∨ ¬ Calm window (.acquire a)) ∧
      ∀ digest, r = .ok digest → Session i none w' ∧ a.row ∈ w'.tables.locks ∧
        ∃ event ∈ commits past', a.row ∈ event.after.tables.locks)
    (acquireTransaction_secure (by simp [hpast]) hv) ?_)
  rotate_left
  · rintro past₁ e w₁ ⟨herror, -⟩
    exact ⟨fun _ _ => (herror e rfl).imp_right (fun hcalm hquiet => hcalm hquiet.1),
      fun _ hr => by cases hr⟩
  · rintro past₁ r w₁ v₁ ⟨herror, hok⟩ hrely
    refine ⟨by simpa using herror, fun digest hr => ?_⟩
    obtain ⟨-, hrow, hevent⟩ := hok digest hr
    have hrow' : a.row ∈ v₁.tables.locks :=
      star_keeps (P := fun v => a.row ∈ v.tables.locks) (fun _ _ hrely => hrely.row) hrely hrow
    refine ⟨session_dropTransaction i v₁, ?_, by simpa using hevent⟩
    exact (LockStep.dropTransaction i (.acquire a) .close v₁).keeps_row hrow' (fun _ hc => by cases hc)
  -- the row is read back
  rintro past₁ digest w₁ ⟨-, hok⟩
  obtain ⟨hw₁, hrow₁, event, hevent, hlanded⟩ := hok digest rfl
  have hcommitted : commits past₁ ≠ [] := List.ne_nil_of_mem hevent
  have hkept : ∀ past' next v v', Relies window i (.acquire a) past' next v v' →
      Session i none v ∧ a.row ∈ v.tables.locks → Session i none v' ∧ a.row ∈ v'.tables.locks :=
    fun _ _ _ _ hrely hv => ⟨hrely.session hv.1, hrely.row hv.2⟩
  apply Secure.bind (closing_secure (Q := fun past' r w' => commits past' = commits past₁ ∧
      (∀ e, r = .error e → ¬ Steady window (.acquire a) True) ∧
      ∀ row, r = .ok row → row = some (a.ownerId.val, a.lockInstanceId))
    (K := fun past' r _ => commits past' = commits past₁ ∧
      (∀ e, r = .error e → ¬ Steady window (.acquire a) True) ∧
      ∀ row, r = .ok row → row = some (a.ownerId.val, a.lockInstanceId)) ?_ ?_)
  · rintro past₂ row w₂ ⟨hpast₂, -, hrow⟩
    obtain rfl := hrow row rfl
    have hmem : event ∈ past₂ := by
      have hmem : event ∈ commits past₂ := hpast₂ ▸ hevent
      exact (List.mem_filter.mp hmem).1
    rw [if_neg (by simp)]
    intro v₂ _ _
    exact ⟨.remember, (fun _ hr => by cases hr), fun lock hr =>
      ⟨(Except.ok.inj hr).symm, event, by simp [hmem], hlanded⟩⟩
  · rintro past₂ e w₂ ⟨-, hsteady, -⟩
    exact ⟨fun _ _ => .inr (fun hquiet => hsteady e rfl hquiet.2), fun _ hr => by cases hr⟩
  · apply Secure.bind ((openControlConnection_secure hw₁).frame
      (F := fun v => a.row ∈ v.tables.locks) (fun _ _ _ _ hrely => hrely.row)
      (fun event hstep hrow => hstep.keeps_row hrow (fun _ hc => by cases hc)) hrow₁)
    · rintro past₂ _ w₂ ⟨⟨hpast₂, hw₂, -⟩, hrow₂⟩
      apply secure_last_read (hkept _ _) ⟨hw₂, hrow₂⟩
      rintro v₂ ⟨hv₂, hrow⟩ hinv
      refine ⟨by simpa using hpast₂, (fun _ hr => by cases hr), fun row hr => ?_⟩
      have hfind : v₂.tables.locks.find? (·.taskId = a.taskId.val) = some a.row :=
        find?_task hinv.tasks hrow
      rw [← Except.ok.inj hr, hv₂.view, hfind]
      rfl
    · rintro past₂ e w₂ ⟨⟨hpast₂, -, hsteady⟩, -⟩
      refine ⟨hpast₂, fun _ _ => ?_, fun _ hr => by cases hr⟩
      rw [eq_true hcommitted] at hsteady
      exact hsteady e rfl
  · rintro past₂ r w₂ v₂ ⟨hpast₂, hsteady, hrow⟩ _
    exact ⟨by simpa using hpast₂, hsteady, hrow⟩

/-- A transaction that is rolled back when it fails. -/
theorem onError_secure {α : Type} {body : LockCode α}
    {Q K : List LockEvent → Except Failure α → LockStore → Prop}
    (h : LockSecure window identity i c Q past body w)
    (hok : ∀ past' a w', Q past' (.ok a) w' → K past' (.ok a) w')
    (herror : ∀ past' e w' v, Q past' (.error e) w' →
      K (past' ++ [⟨.rollback, v, v.dropTransaction i⟩]) (.error e) (v.dropTransaction i)) :
    LockSecure window identity i c K past
      (body.onError .rollback (LockStore.dropTransaction i)) w := by
  apply Secure.andThen h
  intro past' r w' hr
  cases r with
  | ok a => exact hok past' a w' hr
  | error e =>
      intro v _ _
      exact ⟨.dropTransaction i c .rollback v, herror past' e w' v hr⟩

/-- The transaction of a release commits, or it raises; it raises after the commit only when
another call commits at once. -/
theorem releaseTransaction_secure {lock : WorkflowTaskLock} (hpast : commits past = [])
    (hs : Session i none w) :
    LockSecure window identity i (.release lock)
      (fun past' r _ => ∀ e, r = .error e → commits past' = [] ∨ ¬ Calm window (.release lock))
      past
      (do
        let previous ← beginAuthorityTransaction i identity
        deleteTaskLock i lock
        commitAuthorityTransaction i identity previous.1 previous.2) w := by
  apply Secure.bind (beginAuthorityTransaction_secure hs)
  · rintro past₁ p w₁ ⟨hpast₁, -, hbegun⟩
    obtain ⟨tables, hw₁, rfl⟩ := hbegun p rfl
    apply secure_write (fun _ _ hrely => hrely.inside) hw₁
    · intro v hv _
      simp only [LockStore.edit, hv.1, if_true]
      exact .edit hv.1
    intro v hv _
    have hdeleted : Inside i tables
        { tables with locks := tables.locks.filter (fun row => ¬ lock.Owns row) }
        (v.edit i (fun tables =>
          { tables with locks := tables.locks.filter (fun row => ¬ lock.Owns row) })) := by
      simp only [LockStore.edit, hv.1, if_true]
      exact ⟨rfl, hv.2⟩
    have hchanges : Changes (.release lock) tables.locks
        (tables.locks.filter (fun row => ¬ lock.Owns row)) := rfl
    apply (commitAuthorityTransaction_secure hdeleted rfl rfl hchanges).mono
    exact fun _ _ _ h e he => .inr (h.2.2 e he)
  · exact fun past₁ e w₁ h _ _ => .inl (h.1.trans hpast)

/-- **A release** that raises has committed nothing, unless another call commits right after it. -/
theorem release_secure {lock : WorkflowTaskLock} (hpast : commits past = [])
    (hs : Session i none w) :
    LockSecure window identity i (.release lock)
      (fun past' r _ => ∀ e, r = .error e → commits past' = [] ∨ ¬ Calm window (.release lock))
      past (release i identity lock) w := by
  unfold release
  apply secure_read (fun _ _ hrely => hrely.session) hs
  intro v hv _
  split_ifs
  · exact fun _ hr => by cases hr
  apply Secure.bind (closing_secure (Q := fun past' r _ =>
      ∀ e, r = .error e → commits past' = [] ∨ ¬ Calm window (.release lock))
    (K := fun past' r _ =>
      ∀ e, r = .error e → commits past' = [] ∨ ¬ Calm window (.release lock)) ?_ ?_)
  · intro past₁ _ w₁ _ v₁ _ _
    refine ⟨.remember, fun v₂ _ _ => ⟨.remember, fun _ hr => by cases hr⟩⟩
  · exact fun _ e _ h e' he => h e' (by cases he; rfl)
  · apply Secure.bind (openControlConnection_secure hv)
    · rintro past₁ _ w₁ ⟨hpast₁, hw₁, -⟩
      apply onError_secure (releaseTransaction_secure (hpast₁.trans (by simp [hpast])) hw₁)
      · exact fun _ _ _ h => h
      · exact fun past₂ e w₂ v₂ h e' he' => by simpa using h e rfl
    · exact fun past₁ e w₁ h _ _ => .inl (h.1.trans (by simp [hpast]))
  · exact fun past₁ r w₁ v₁ h _ e he => by simpa using h e he

/-- **A read** raises only for a torn digest. -/
theorem readControlStore_secure (hs : Session i none w) :
    LockSecure window identity i c
      (fun past' r _ => commits past' = commits past ∧
        ∀ e, r = .error e → ¬ Steady window c (commits past ≠ []))
      past (readControlStore i identity) w := by
  unfold readControlStore
  apply closing_secure (Q := fun past' r _ => commits past' = commits past ∧
    ∀ e, r = .error e → ¬ Steady window c (commits past ≠ []))
  · apply Secure.bind (openControlConnection_secure hs)
    · rintro past₁ _ w₁ ⟨hpast₁, hw₁, -⟩
      apply secure_last_read (fun _ _ hrely => hrely.session) hw₁
      exact fun _ _ _ => ⟨by simpa using hpast₁, fun _ hr => by cases hr⟩
    · exact fun past₁ e w₁ h => ⟨h.1, fun _ _ => h.2.2 e rfl⟩
  · exact fun past₁ r w₁ v₁ h _ => ⟨by simpa using h.1, h.2⟩

/-- What a call ends with. -/
structure CallPost (window : LockWindow) (c : LockCall) (past : List LockEvent)
    (r : Except Failure (Option WorkflowTaskLock)) : Prop where
  failed : ∀ e, r = .error e → commits past = [] ∨ ¬ QuietAfterCommit window c
  acquired : ∀ a lock, c = .acquire a → r = .ok lock →
    lock = some a.lock ∧ ∃ event ∈ past, a.row ∈ event.after.tables.locks
  readable : ∀ e, c = .read → r = .error e → ¬ Steady window c False

/-- **Every call, among any others.** -/
theorem lockCode_secure (hs : Session i none w) :
    LockSecure window identity i c (fun past r _ => CallPost window c past r) []
      (lockCode identity i c) w := by
  cases c with
  | acquire a =>
      apply Secure.bind (acquireTaskLock_secure rfl hs)
      · rintro past lock w' ⟨-, hok⟩
        obtain ⟨rfl, hevent⟩ := hok lock rfl
        refine ⟨(fun _ hr => by cases hr), fun b result hc hr => ?_, fun _ hc => by cases hc⟩
        obtain rfl := LockCall.acquire.inj hc
        exact ⟨(Except.ok.inj hr).symm, hevent⟩
      · exact fun past e w' h => ⟨fun _ _ => h.1 e rfl, (fun _ _ _ hr => by cases hr),
          fun _ hc => by cases hc⟩
  | release lock =>
      apply Secure.bind (release_secure rfl hs)
      · exact fun past _ w' _ => ⟨(fun _ hr => by cases hr), (fun _ _ hc => by cases hc),
          fun _ hc => by cases hc⟩
      · exact fun past e w' h => ⟨fun _ _ => (h e rfl).imp_right (fun hcalm hq => hcalm hq.1),
          (fun _ _ hc => by cases hc), fun _ hc => by cases hc⟩
  | read =>
      apply Secure.bind (readControlStore_secure hs)
      · exact fun past _ w' _ => ⟨(fun _ hr => by cases hr), (fun _ _ hc => by cases hc),
          fun _ _ hr => by cases hr⟩
      · refine fun past e w' h => ⟨fun _ _ => .inl h.1, (fun _ _ hc => by cases hc),
          fun _ _ _ hsteady => h.2 e rfl ?_⟩
        simpa using hsteady

end Acgps
