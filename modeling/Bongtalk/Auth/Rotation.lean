import Bongtalk.Auth.Sessions

/-!
# Rotation

A refresh token is good for one rotation. A second presentation of it counts as theft and revokes
the family. The rotation writes what an earlier read has decided, so this rests on the token not
having been revoked in between.
-/

namespace Bongtalk.Auth

open Library EventLoop Prisma Table List

/-- A token that can still be rotated. -/
def RefreshToken.Live (now : DateTime) (token : RefreshToken) : Prop :=
  token.revokedAt = none ∧ now < token.expiresAt

/-- Rows stay, in their families, and a revoked one stays revoked. -/
def Grows (state next : SessionState) : Prop :=
  ∀ row ∈ state.tokens, ∃ later ∈ next.tokens, later.id = row.id ∧ later.userId = row.userId ∧
    later.familyId = row.familyId ∧ (row.revokedAt ≠ none → later.revokedAt ≠ none)

theorem Grows.of_same {state next : SessionState} (same : next.tokens = state.tokens) :
    Grows state next :=
  fun row present => ⟨row, same ▸ present, rfl, rfl, rfl, fun revoked => revoked⟩

/-- A family has one user, at most one token that is not revoked, and none once it is covered. -/
structure TokensSound (state : SessionState) : Prop where
  oneUser : ∀ first ∈ state.tokens, ∀ second ∈ state.tokens,
    first.familyId = second.familyId → first.userId = second.userId
  single : ∀ first ∈ state.tokens, ∀ second ∈ state.tokens,
    first.familyId = second.familyId → first.revokedAt = none → second.revokedAt = none →
      first = second
  covered : ∀ row ∈ state.tokens, row.familyId ∈ state.covered → row.revokedAt ≠ none
  known : ∀ familyId ∈ state.covered, ∃ row ∈ state.tokens, row.familyId = familyId

/-- The answers agree with the rows of their tokens. -/
structure AnswersSound (state : SessionState) : Prop where
  rotated : ∀ raw next, (raw, .rotated next) ∈ state.answers →
    ∃ row ∈ state.tokens, row.id = raw ∧ row.revokedAt ≠ none
  reused : ∀ raw, (raw, .reused) ∈ state.answers →
    ∃ row ∈ state.tokens, row.id = raw ∧ row.familyId ∈ state.covered
  ordered : state.answers.Pairwise fun earlier later => earlier.1 = later.1 →
    (∃ next, earlier.2 = .rotated next) → later.2 = .reused

/-- What a pending call has read is there. -/
def TokenRead (state : SessionState) : SessionTask → Prop
  | .rotate record _ => ∃ row ∈ state.tokens,
      row.id = record.id ∧ row.userId = record.userId ∧ row.familyId = record.familyId
  | .burnFamily raw familyId => ∃ row ∈ state.tokens, row.id = raw ∧ row.familyId = familyId
  | .revokeFamily familyId => ∃ row ∈ state.tokens, row.familyId = familyId
  | _ => True

/-- The token of a rotation is still not revoked when its transaction runs. -/
def StillUnrevoked (state : SessionState) : SessionTask → Prop
  | .rotate record _ => ∀ row ∈ state.tokens, row.id = record.id → row.revokedAt = none
  | _ => True

/-- A token that is revoked comes back before it expires. Later it is refused as expired. -/
def PresentedInTime (state : SessionState) : SessionTask → Prop
  | .findToken raw _ => ∀ row ∈ state.tokens, row.id = raw → row.revokedAt ≠ none →
      state.now < row.expiresAt
  | _ => True

section Growth

variable {state next : SessionState}

theorem TokenRead.of_grows (grows : Grows state next) {task : SessionTask}
    (read : TokenRead state task) : TokenRead next task := by
  cases task with
  | rotate record newRaw =>
    obtain ⟨row, present, sameId, sameUser, sameFamily⟩ := read
    obtain ⟨later, laterMem, keepsId, keepsUser, keepsFamily, -⟩ := grows row present
    exact ⟨later, laterMem, keepsId.trans sameId, keepsUser.trans sameUser,
      keepsFamily.trans sameFamily⟩
  | burnFamily raw familyId =>
    obtain ⟨row, present, sameId, sameFamily⟩ := read
    obtain ⟨later, laterMem, keepsId, -, keepsFamily, -⟩ := grows row present
    exact ⟨later, laterMem, keepsId.trans sameId, keepsFamily.trans sameFamily⟩
  | revokeFamily familyId =>
    obtain ⟨row, present, sameFamily⟩ := read
    obtain ⟨later, laterMem, -, -, keepsFamily, -⟩ := grows row present
    exact ⟨later, laterMem, keepsFamily.trans sameFamily⟩
  | _ => trivial

theorem AnswersSound.of_grows (grows : Grows state next) (sameAnswers : next.answers = state.answers)
    (more : ∀ familyId ∈ state.covered, familyId ∈ next.covered) (sound : AnswersSound state) :
    AnswersSound next where
  rotated raw newRaw answered := by
    rw [sameAnswers] at answered
    obtain ⟨row, present, same, revoked⟩ := sound.rotated raw newRaw answered
    obtain ⟨later, laterMem, keepsId, -, -, keepsRevoked⟩ := grows row present
    exact ⟨later, laterMem, keepsId.trans same, keepsRevoked revoked⟩
  reused raw answered := by
    rw [sameAnswers] at answered
    obtain ⟨row, present, same, isCovered⟩ := sound.reused raw answered
    obtain ⟨later, laterMem, keepsId, -, keepsFamily, -⟩ := grows row present
    exact ⟨later, laterMem, keepsId.trans same, keepsFamily ▸ more _ isCovered⟩
  ordered := by
    rw [sameAnswers]
    exact sound.ordered

/-- An answer other than a rotation, for a token that has a row if it was ever rotated. -/
theorem AnswersSound.answer (sound : AnswersSound state) {raw : RefreshTokenId}
    {answer : RotateAnswer}
    (isRotated : ∀ next, answer = .rotated next →
      ∃ row ∈ state.tokens, row.id = raw ∧ row.revokedAt ≠ none)
    (isReused : answer = .reused → ∃ row ∈ state.tokens, row.id = raw ∧ row.familyId ∈ state.covered)
    (follows : ∀ next, (raw, .rotated next) ∈ state.answers → answer = .reused) :
    AnswersSound (state.answer raw answer) where
  rotated other newRaw answered := by
    rcases mem_append.mp answered with before | isNew
    · exact sound.rotated other newRaw before
    obtain ⟨rfl, same⟩ := Prod.mk.inj (mem_singleton.mp isNew)
    exact isRotated newRaw same.symm
  reused other answered := by
    rcases mem_append.mp answered with before | isNew
    · exact sound.reused other before
    obtain ⟨rfl, same⟩ := Prod.mk.inj (mem_singleton.mp isNew)
    exact isReused same.symm
  ordered := by
    refine pairwise_append.mpr ⟨sound.ordered, pairwise_singleton _ _, ?_⟩
    rintro ⟨other, earlier⟩ earlierMem later laterMem same ⟨next, wasRotated⟩
    obtain rfl := mem_singleton.mp laterMem
    subst same wasRotated
    exact follows next earlierMem

/-- A token that was never rotated is refused. -/
theorem AnswersSound.refuse (sound : AnswersSound state) {raw : RefreshTokenId}
    {answer : RotateAnswer} (notRotated : ∀ next, answer ≠ .rotated next)
    (notReused : answer ≠ .reused)
    (unused : ∀ next, (raw, .rotated next) ∉ state.answers) :
    AnswersSound (state.answer raw answer) :=
  sound.answer (fun next isRotated => absurd isRotated (notRotated next))
    (fun isReused => absurd isReused notReused) fun next answered => absurd answered (unused next)

end Growth

section Revocations

variable {state : SessionState} {condition : RefreshToken → Bool}

theorem mem_revokeWhere {row : RefreshToken} :
    row ∈ (state.revokeWhere condition).tokens ↔ ∃ old ∈ state.tokens,
      (if old.revokedAt = none ∧ condition old = true then
        { old with revokedAt := some state.now } else old) = row :=
  mem_map

/-- A token that a revocation has left is one that it does not match. -/
theorem of_unrevoked {row : RefreshToken} (present : row ∈ (state.revokeWhere condition).tokens)
    (unrevoked : row.revokedAt = none) : row ∈ state.tokens ∧ condition row = false := by
  obtain ⟨old, oldMem, rfl⟩ := mem_revokeWhere.mp present
  split at unrevoked
  · cases unrevoked
  next kept =>
    rw [if_neg kept]
    refine ⟨oldMem, Bool.eq_false_of_not_eq_true fun matched => kept ⟨unrevoked, matched⟩⟩

theorem grows_revokeWhere (state : SessionState) (condition : RefreshToken → Bool) :
    Grows state (state.revokeWhere condition) := by
  intro row present
  refine ⟨_, mem_revokeWhere.mpr ⟨row, present, rfl⟩, ?_⟩
  split
  · exact ⟨rfl, rfl, rfl, fun _ => Option.some_ne_none _⟩
  · exact ⟨rfl, rfl, rfl, fun revoked => revoked⟩

variable (sound : TokensSound state)

include sound

theorem TokensSound.revokeWhere (families : List FamilyId)
    (coveredNow : ∀ row ∈ (state.revokeWhere condition).tokens, row.familyId ∈ families →
      row.revokedAt ≠ none)
    (knownNow : ∀ familyId ∈ families, ∃ row ∈ state.tokens, row.familyId = familyId) :
    TokensSound { state.revokeWhere condition with covered := families ++ state.covered } where
  oneUser first firstMem second secondMem same := by
    obtain ⟨firstOld, firstOldMem, rfl⟩ := mem_revokeWhere.mp firstMem
    obtain ⟨secondOld, secondOldMem, rfl⟩ := mem_revokeWhere.mp secondMem
    have keeps (old : RefreshToken) : ∀ {changed : RefreshToken},
        (if old.revokedAt = none ∧ condition old = true then
          { old with revokedAt := some state.now } else old) = changed →
        changed.familyId = old.familyId ∧ changed.userId = old.userId := by
      rintro _ rfl
      split
      · exact ⟨rfl, rfl⟩
      · exact ⟨rfl, rfl⟩
    rw [(keeps firstOld rfl).1, (keeps secondOld rfl).1] at same
    rw [(keeps firstOld rfl).2, (keeps secondOld rfl).2]
    exact sound.oneUser firstOld firstOldMem secondOld secondOldMem same
  single first firstMem second secondMem same firstUnrevoked secondUnrevoked :=
    sound.single first (of_unrevoked firstMem firstUnrevoked).1 second
      (of_unrevoked secondMem secondUnrevoked).1 same firstUnrevoked secondUnrevoked
  covered row present isCovered := by
    rcases mem_append.mp isCovered with isNew | before
    · exact coveredNow row present isNew
    intro unrevoked
    exact sound.covered row (of_unrevoked present unrevoked).1 before unrevoked
  known familyId isCovered := by
    have inState : ∃ row ∈ state.tokens, row.familyId = familyId := by
      rcases mem_append.mp isCovered with isNew | before
      · exact knownNow familyId isNew
      · exact sound.known familyId before
    obtain ⟨row, present, rfl⟩ := inState
    obtain ⟨later, laterMem, -, -, keepsFamily, -⟩ :=
      grows_revokeWhere state condition row present
    exact ⟨later, laterMem, keepsFamily⟩

theorem TokensSound.revokeFamily {familyId : FamilyId}
    (known : ∃ row ∈ state.tokens, row.familyId = familyId) :
    TokensSound (state.revokeFamily familyId) := by
  apply sound.revokeWhere [familyId]
  · intro row present inFamily unrevoked
    have outside := (of_unrevoked present unrevoked).2
    rw [mem_singleton.mp inFamily, beq_self_eq_true] at outside
    cases outside
  · intro other isFamily
    rw [mem_singleton.mp isFamily]
    exact known

theorem TokensSound.revokeRaw (raw : RefreshTokenId) :
    TokensSound (state.revokeRaw raw) := by
  apply sound.revokeWhere _
  · intro row present inFamily unrevoked
    obtain ⟨current, found, sameFamily⟩ := mem_map.mp inFamily
    obtain ⟨currentMem, matched⟩ := mem_findMany.mp found
    rw [Bool.and_eq_true, beq_iff_eq, beq_iff_eq] at matched
    obtain ⟨rowMem, outside⟩ := of_unrevoked present unrevoked
    have isCurrent := sound.single row rowMem current currentMem sameFamily.symm unrevoked matched.2
    rw [isCurrent, matched.1, beq_self_eq_true] at outside
    cases outside
  · intro familyId isFamily
    obtain ⟨row, found, rfl⟩ := mem_map.mp isFamily
    exact ⟨row, (mem_findMany.mp found).1, rfl⟩

theorem TokensSound.revokeAllExceptFamily (userId : UserId) (exceptFamilyId : Option FamilyId) :
    TokensSound (state.revokeAllExceptFamily userId exceptFamilyId) := by
  apply sound.revokeWhere _
  · intro row present inFamily unrevoked
    obtain ⟨other, found, sameFamily⟩ := mem_map.mp inFamily
    obtain ⟨otherMem, matched⟩ := mem_findMany.mp found
    obtain ⟨rowMem, outside⟩ := of_unrevoked present unrevoked
    rw [← sound.oneUser other otherMem row rowMem sameFamily, ← sameFamily, matched] at outside
    cases outside
  · intro familyId isFamily
    obtain ⟨row, found, rfl⟩ := mem_map.mp isFamily
    exact ⟨row, (mem_findMany.mp found).1, rfl⟩

end Revocations

section Rotate

variable {state : SessionState} {refreshTtl : Nat} {record : RefreshToken} {newRaw : RefreshTokenId}

/-- A row as a rotation of a token leaves it. -/
def replaceRow (state : SessionState) (record row : RefreshToken) : RefreshToken :=
  if row.id = record.id then
    { row with revokedAt := some state.now, replacedAt := some state.now }
  else row

theorem replaceRow_keeps (state : SessionState) (record row : RefreshToken) :
    (replaceRow state record row).id = row.id ∧ (replaceRow state record row).userId = row.userId ∧
      (replaceRow state record row).familyId = row.familyId := by
  rw [replaceRow]
  split
  · exact ⟨rfl, rfl, rfl⟩
  · exact ⟨rfl, rfl, rfl⟩

theorem of_unrevoked_replaceRow {row : RefreshToken}
    (unrevoked : (replaceRow state record row).revokedAt = none) :
    replaceRow state record row = row ∧ row.id ≠ record.id := by
  rw [replaceRow] at unrevoked ⊢
  split at unrevoked
  · cases unrevoked
  next other =>
    rw [if_neg other]
    exact ⟨rfl, other⟩

/-- A rotation adds a token, unless the token was there already. -/
theorem rotate_cases (state : SessionState) (refreshTtl : Nat) (record : RefreshToken)
    (newRaw : RefreshTokenId) :
    state.rotate refreshTtl record newRaw = state ∨
      ∃ tokens : Table RefreshToken RefreshToken.id,
        state.rotate refreshTtl record newRaw =
          SessionState.answer { state with tokens := tokens } record.id (.rotated newRaw) ∧
        ∀ row, row ∈ tokens ↔ row = state.nextToken refreshTtl record newRaw ∨
          ∃ old ∈ state.tokens, replaceRow state record old = row := by
  rw [SessionState.rotate]
  split
  · exact .inl rfl
  next tokens inserted =>
    refine .inr ⟨tokens, rfl, fun row => ?_⟩
    rw [mem_insert? inserted]
    exact or_congr_right mem_map

variable {tokens : Table RefreshToken RefreshToken.id}

theorem grows_of_replaced
    (members : ∀ row, row ∈ tokens ↔ row = state.nextToken refreshTtl record newRaw ∨ ∃ old ∈
      state.tokens, replaceRow state record old = row) :
    Grows state { state with tokens := tokens } := by
  intro row present
  refine ⟨_, (members _).mpr (.inr ⟨row, present, rfl⟩), ?_⟩
  obtain ⟨keepsId, keepsUser, keepsFamily⟩ := replaceRow_keeps state record row
  refine ⟨keepsId, keepsUser, keepsFamily, fun revoked unrevoked => revoked ?_⟩
  rw [(of_unrevoked_replaceRow unrevoked).1] at unrevoked
  exact unrevoked

/-- What a rotation leaves unrevoked is its own token, and tokens of other families. -/
theorem of_unrevoked_replaced (sound : TokensSound state)
    (read : TokenRead state (.rotate record newRaw))
    (still : StillUnrevoked state (.rotate record newRaw))
    (members : ∀ row, row ∈ tokens ↔ row = state.nextToken refreshTtl record newRaw ∨ ∃ old ∈
      state.tokens, replaceRow state record old = row) {row : RefreshToken} (present : row ∈ tokens)
    (unrevoked : row.revokedAt = none) :
    row = state.nextToken refreshTtl record newRaw ∨
      row ∈ state.tokens ∧ row.familyId ≠ record.familyId := by
  obtain ⟨current, currentMem, sameId, -, sameFamily⟩ := read
  apply ((members row).mp present).imp_right
  rintro ⟨old, oldMem, rfl⟩
  obtain ⟨same, other⟩ := of_unrevoked_replaceRow unrevoked
  rw [same] at unrevoked ⊢
  refine ⟨oldMem, fun inFamily => other ?_⟩
  have isCurrent := sound.single old oldMem current currentMem (inFamily.trans sameFamily.symm)
    unrevoked (still current currentMem sameId)
  exact isCurrent ▸ sameId

theorem TokensSound.of_replaced (sound : TokensSound state)
    (read : TokenRead state (.rotate record newRaw))
    (still : StillUnrevoked state (.rotate record newRaw))
    (members : ∀ row, row ∈ tokens ↔ row = state.nextToken refreshTtl record newRaw ∨ ∃ old ∈
      state.tokens, replaceRow state record old = row) :
    TokensSound { state with tokens := tokens } := by
  have left : ∀ row ∈ tokens, row.revokedAt = none →
      row = state.nextToken refreshTtl record newRaw ∨
        row ∈ state.tokens ∧ row.familyId ≠ record.familyId :=
    fun _ present unrevoked => of_unrevoked_replaced sound read still members present unrevoked
  obtain ⟨current, currentMem, sameId, sameUser, sameFamily⟩ := read
  -- Every row of the family comes from one that was there, or is the new one of its user.
  have origin : ∀ row ∈ tokens, ∃ old ∈ state.tokens,
      old.familyId = row.familyId ∧ old.userId = row.userId := by
    intro row present
    rcases (members row).mp present with rfl | ⟨old, oldMem, rfl⟩
    · exact ⟨current, currentMem, sameFamily, sameUser⟩
    obtain ⟨-, keepsUser, keepsFamily⟩ := replaceRow_keeps state record old
    exact ⟨old, oldMem, keepsFamily.symm, keepsUser.symm⟩
  refine ⟨?_, ?_, ?_, ?_⟩
  · intro first firstMem second secondMem same
    obtain ⟨firstOld, firstOldMem, firstFamily, firstUser⟩ := origin first firstMem
    obtain ⟨secondOld, secondOldMem, secondFamily, secondUser⟩ := origin second secondMem
    rw [← firstUser, ← secondUser]
    exact sound.oneUser firstOld firstOldMem secondOld secondOldMem
      (firstFamily.trans (same.trans secondFamily.symm))
  · intro first firstMem second secondMem same firstUnrevoked secondUnrevoked
    rcases left first firstMem firstUnrevoked with rfl | ⟨firstOld, firstOther⟩
    · rcases left second secondMem secondUnrevoked with rfl | ⟨-, secondOther⟩
      · rfl
      · exact absurd same.symm secondOther
    · rcases left second secondMem secondUnrevoked with rfl | ⟨secondOld, -⟩
      · exact absurd same firstOther
      · exact sound.single first firstOld second secondOld same firstUnrevoked secondUnrevoked
  · intro row present isCovered unrevoked
    rcases left row present unrevoked with rfl | ⟨old, -⟩
    · exact sound.covered current currentMem (sameFamily.symm ▸ isCovered)
        (still current currentMem sameId)
    · exact sound.covered row old isCovered unrevoked
  · intro familyId isCovered
    obtain ⟨row, present, rfl⟩ := sound.known familyId isCovered
    obtain ⟨later, laterMem, -, -, keepsFamily, -⟩ := grows_of_replaced members row present
    exact ⟨later, laterMem, keepsFamily⟩

/-- The new answer of a rotation is the first one of its token. -/
theorem AnswersSound.of_replaced (sound : AnswersSound state)
    (read : TokenRead state (.rotate record newRaw))
    (still : StillUnrevoked state (.rotate record newRaw))
    (members : ∀ row, row ∈ tokens ↔ row = state.nextToken refreshTtl record newRaw ∨ ∃ old ∈
      state.tokens, replaceRow state record old = row) :
    AnswersSound
      (SessionState.answer { state with tokens := tokens } record.id (.rotated newRaw)) := by
  have grown := sound.of_grows (grows_of_replaced members) rfl fun _ isCovered => isCovered
  refine grown.answer (fun _ _ => ?_) nofun fun next answered => ?_
  · obtain ⟨current, currentMem, sameId, -, -⟩ := read
    refine ⟨_, (members _).mpr (.inr ⟨current, currentMem, rfl⟩), ?_, ?_⟩
    · exact (replaceRow_keeps state record current).1.trans sameId
    · rw [replaceRow, if_pos sameId]
      exact Option.some_ne_none _
  · obtain ⟨row, present, same, revoked⟩ := sound.rotated _ next answered
    exact absurd (still row present same) revoked

end Rotate

section Resume

variable {refreshTtl : Nat} {state next : SessionState} {task : SessionTask}

/-- The tokens and the answers stay. -/
structure SameTokens (state next : SessionState) : Prop where
  tokens : next.tokens = state.tokens
  covered : next.covered = state.covered
  answers : next.answers = state.answers

theorem SameTokens.of_resetPassword {row : PasswordResetToken} {newPassword : String}
    (applied : state.resetPassword row newPassword = some next) : SameTokens state next := by
  rw [SessionState.resetPassword] at applied
  split at applied
  · cases applied
    exact ⟨rfl, rfl, rfl⟩
  · cases applied

theorem SameTokens.tokensSound (same : SameTokens state next) (sound : TokensSound state) :
    TokensSound next := by
  refine ⟨?_, ?_, ?_, ?_⟩
  · rw [same.tokens]
    exact sound.oneUser
  · rw [same.tokens]
    exact sound.single
  · rw [same.tokens, same.covered]
    exact sound.covered
  · rw [same.tokens, same.covered]
    exact sound.known

theorem SameTokens.answersSound (same : SameTokens state next) (sound : AnswersSound state) :
    AnswersSound next :=
  sound.of_grows (.of_same same.tokens) same.answers fun _ isCovered => same.covered ▸ isCovered

theorem TokensSound.answer (sound : TokensSound state) (raw : RefreshTokenId)
    (answer : RotateAnswer) : TokensSound (state.answer raw answer) :=
  ⟨sound.oneUser, sound.single, sound.covered, sound.known⟩

theorem Grows.of_writes (writes : Writes refreshTtl state task next) : Grows state next := by
  cases writes with
  | @rotate record newRaw =>
    rcases rotate_cases state refreshTtl record newRaw with same | ⟨tokens, same, members⟩
    · exact .of_same (congrArg SessionState.tokens same)
    · exact same ▸ grows_of_replaced members
  | burnFamily | revokeRaw | revokeFamily | revokeAllExceptFamily => exact grows_revokeWhere state _
  | resetPassword applied => exact .of_same (SameTokens.of_resetPassword applied).tokens
  | _ => exact .of_same rfl

/-- What a call goes on with it has read from a row that is there. -/
theorem tokenRead_of_spawned {new : SessionTask} (spawned : new ∈ (task.resume refreshTtl state).2) :
    TokenRead (task.resume refreshTtl state).1 new := by
  apply TokenRead.of_grows (.of_writes (writes_resume refreshTtl state task))
  cases continues_of_spawned refreshTtl state spawned with
  | @burnFamily raw newRaw record found =>
    obtain ⟨present, isRaw⟩ := mem_of_findUnique found
    exact ⟨record, present, isRaw, rfl⟩
  | @rotate raw newRaw record found =>
    exact ⟨record, (mem_of_findUnique found).1, rfl, rfl, rfl⟩
  | @revokeFamily userId sessionId record found =>
    exact ⟨record, (mem_of_findUnique found).1, rfl⟩
  | _ => trivial

theorem TokensSound.of_writes (writes : Writes refreshTtl state task next)
    (sound : TokensSound state) (read : TokenRead state task) (still : StillUnrevoked state task) :
    TokensSound next := by
  cases writes with
  | nothing => exact sound
  | @unknown raw newRaw missing => exact sound.answer raw .unknown
  | @expired raw newRaw record found expired => exact sound.answer raw .expired
  | @burnFamily raw familyId =>
    obtain ⟨row, present, -, inFamily⟩ := read
    exact (sound.revokeFamily ⟨row, present, inFamily⟩).answer raw .reused
  | @rotate record newRaw =>
    rcases rotate_cases state refreshTtl record newRaw with same | ⟨tokens, same, members⟩
    · rw [same]
      exact sound
    · rw [same]
      exact (sound.of_replaced read still members).answer record.id (.rotated newRaw)
  | @revokeRaw raw => exact sound.revokeRaw raw
  | revokeFamily => exact sound.revokeFamily read
  | @revokeAllExceptFamily userId exceptFamilyId =>
    exact sound.revokeAllExceptFamily userId exceptFamilyId
  | resetPassword applied => exact (SameTokens.of_resetPassword applied).tokensSound sound
  | updatePassword => exact ⟨sound.oneUser, sound.single, sound.covered, sound.known⟩

/-- A revocation keeps the answers in order. -/
theorem AnswersSound.revokeWhere (sound : AnswersSound state) (condition : RefreshToken → Bool)
    (families : List FamilyId) :
    AnswersSound { state.revokeWhere condition with covered := families ++ state.covered } :=
  sound.of_grows (grows_revokeWhere state condition) rfl
    fun _ isCovered => mem_append_right families isCovered

theorem AnswersSound.of_writes (writes : Writes refreshTtl state task next)
    (sound : AnswersSound state) (read : TokenRead state task) (still : StillUnrevoked state task)
    (inTime : PresentedInTime state task) : AnswersSound next := by
  cases writes with
  | nothing => exact sound
  | unknown missing =>
    refine sound.refuse (by simp) (by simp) fun next answered => ?_
    obtain ⟨row, present, isRaw, -⟩ := sound.rotated _ next answered
    exact absurd isRaw (findUnique_eq_none_iff.mp missing row present)
  | expired found expired =>
    obtain ⟨recordMem, isRecord⟩ := mem_of_findUnique found
    refine sound.refuse (by simp) (by simp) fun next answered => ?_
    obtain ⟨row, present, isRaw, revoked⟩ := sound.rotated _ next answered
    have isRow := eq_of_key_eq present recordMem (isRaw.trans isRecord.symm)
    have early := inTime row present isRaw revoked
    rw [isRow] at early
    exact absurd expired (Nat.not_le.mpr early)
  | @burnFamily raw familyId =>
    obtain ⟨row, present, isRaw, inFamily⟩ := read
    refine (sound.revokeWhere _ [familyId]).answer (by simp) (fun _ => ?_) fun _ _ => rfl
    obtain ⟨later, laterMem, keepsId, -, keepsFamily, -⟩ :=
      grows_revokeWhere state (fun row => row.familyId == familyId) row present
    exact ⟨later, laterMem, keepsId.trans isRaw, mem_cons.mpr (.inl (keepsFamily.trans inFamily))⟩
  | @rotate record newRaw =>
    rcases rotate_cases state refreshTtl record newRaw with same | ⟨tokens, same, members⟩
    · rw [same]
      exact sound
    · rw [same]
      exact sound.of_replaced read still members
  | revokeRaw | revokeAllExceptFamily => exact sound.revokeWhere _ _
  | @revokeFamily familyId => exact sound.revokeWhere _ [familyId]
  | resetPassword applied => exact (SameTokens.of_resetPassword applied).answersSound sound
  | updatePassword => exact ⟨sound.rotated, sound.reused, sound.ordered⟩

end Resume

section Accept

variable {refreshTtl : Nat} {state next : SessionState} {input : SessionInput}

section

variable (after : input.After refreshTtl state next)

include after

/-- A new session is a family of its own. Nothing else from outside changes the tokens. -/
theorem tokensSound_of_after (sound : TokensSound state) : TokensSound next := by
  cases after with
  | @issue userId raw familyId tokens fresh inserted =>
    refine ⟨?_, ?_, ?_, ?_⟩
    · intro first firstMem second secondMem same
      rcases (mem_insert? inserted).mp firstMem with rfl | firstOld
      · rcases (mem_insert? inserted).mp secondMem with rfl | secondOld
        · rfl
        · exact absurd same.symm (fresh second secondOld)
      · rcases (mem_insert? inserted).mp secondMem with rfl | secondOld
        · exact absurd same (fresh first firstOld)
        · exact sound.oneUser first firstOld second secondOld same
    · intro first firstMem second secondMem same firstUnrevoked secondUnrevoked
      rcases (mem_insert? inserted).mp firstMem with rfl | firstOld
      · rcases (mem_insert? inserted).mp secondMem with rfl | secondOld
        · rfl
        · exact absurd same.symm (fresh second secondOld)
      · rcases (mem_insert? inserted).mp secondMem with rfl | secondOld
        · exact absurd same (fresh first firstOld)
        · exact sound.single first firstOld second secondOld same firstUnrevoked secondUnrevoked
    · intro row present isCovered
      rcases (mem_insert? inserted).mp present with rfl | old
      · obtain ⟨other, otherMem, isFamily⟩ := sound.known familyId isCovered
        exact absurd isFamily (fresh other otherMem)
      · exact sound.covered row old isCovered
    · intro other isCovered
      obtain ⟨row, present, inFamily⟩ := sound.known other isCovered
      exact ⟨row, (mem_insert? inserted).mpr (.inr present), inFamily⟩
  | requestReset inserted | tick => exact ⟨sound.oneUser, sound.single, sound.covered, sound.known⟩
  | call => exact sound

theorem grows_of_after : Grows state next := by
  cases after with
  | issue fresh inserted =>
    intro row present
    exact ⟨row, (mem_insert? inserted).mpr (.inr present), rfl, rfl, rfl, fun revoked => revoked⟩
  | requestReset inserted | tick | call => exact .of_same rfl

theorem answersSound_of_after (sound : AnswersSound state) : AnswersSound next := by
  have grows := grows_of_after after
  cases after with
  | issue fresh inserted | requestReset inserted | tick =>
    exact sound.of_grows grows rfl fun _ isCovered => isCovered
  | call => exact sound

end

/-- A call that begins has read nothing. -/
theorem tokenRead_of_begins {task : SessionTask} (begins : task.begins = true) :
    TokenRead state task := by
  cases task with
  | rotate record newRaw | burnFamily raw familyId | revokeFamily familyId => cases begins
  | _ => trivial

end Accept

/-! What a run keeps. -/

/-- A state of accounts and reset tokens, before there is any session. -/
def SessionState.initial (now : DateTime) (accounts : UserId → Option Account)
    (resetTokens : Table PasswordResetToken PasswordResetToken.id) (salts : Nat) : SessionState :=
  { now := now, accounts := accounts, resetTokens := resetTokens, salts := salts }

variable {accounts : UserId → Option Account} {resetTokens : Table PasswordResetToken
  PasswordResetToken.id}

theorem tokensSound_initial {now : DateTime} {salts : Nat} :
    TokensSound (.initial now accounts resetTokens salts) :=
  ⟨nofun, nofun, nofun, nofun⟩

theorem answersSound_initial {now : DateTime} {salts : Nat} :
    AnswersSound (.initial now accounts resetTokens salts) :=
  ⟨nofun, nofun, .nil⟩

/-- What holds in every state. -/
def Sound (state : SessionState) : Prop :=
  TokensSound state ∧ AnswersSound state

/-- The tokens that were rotated, once for each rotation. -/
def SessionState.rotatedTokens (state : SessionState) : List RefreshTokenId :=
  state.answers.filterMap fun
    | (raw, .rotated _) => some raw
    | _ => none

/-- Each token is rotated at most once, a family has at most one live token, and a token that was
rotated is answered as reused from then on, with its family revoked. -/
structure SingleUse (state : SessionState) : Prop where
  once : state.rotatedTokens.Nodup
  oneLive : ∀ first ∈ state.tokens, ∀ second ∈ state.tokens, first.familyId = second.familyId →
    first.Live state.now → second.Live state.now → first = second
  again : state.answers.Pairwise fun earlier later => earlier.1 = later.1 →
    (∃ next, earlier.2 = .rotated next) → later.2 = .reused
  burnt : ∀ raw, (raw, .reused) ∈ state.answers → ∃ record ∈ state.tokens, record.id = raw ∧
    ∀ row ∈ state.tokens, row.familyId = record.familyId → ¬row.Live state.now

variable {state : SessionState}

theorem AnswersSound.once (sound : AnswersSound state) :
    state.rotatedTokens.Nodup := by
  refine pairwise_filterMap.mpr (sound.ordered.imp ?_)
  rintro ⟨raw, first⟩ ⟨other, second⟩ follows kept isFirst keptLater isSecond rfl
  cases first with
  | rotated next =>
    cases isFirst
    cases second with
    | rotated later =>
      cases isSecond
      cases follows rfl ⟨next, rfl⟩
    | _ => cases isSecond
  | _ => cases isFirst

theorem SingleUse.of_sound (sound : Sound state) : SingleUse state where
  once := sound.2.once
  oneLive first firstMem second secondMem same firstLive secondLive :=
    sound.1.single first firstMem second secondMem same firstLive.1 secondLive.1
  again := sound.2.ordered
  burnt raw answered := by
    obtain ⟨record, present, isRaw, isCovered⟩ := sound.2.reused raw answered
    refine ⟨record, present, isRaw, fun row rowMem inFamily live => ?_⟩
    exact sound.1.covered row rowMem (inFamily ▸ isCovered) live.1

theorem keeps_resume {refreshTtl : Nat} {task : SessionTask} (sound : Sound state)
    (read : TokenRead state task)
    (guarded : StillUnrevoked state task ∧ PresentedInTime state task) :
    Keeps Sound TokenRead state (task.resume refreshTtl state).1 (task.resume refreshTtl state).2 where
  invariant :=
    ⟨.of_writes (writes_resume refreshTtl state task) sound.1 read guarded.1,
      .of_writes (writes_resume refreshTtl state task) sound.2 read guarded.1 guarded.2⟩
  stable _ waits := waits.of_grows (.of_writes (writes_resume refreshTtl state task))
  fresh _ spawned := tokenRead_of_spawned spawned

theorem keeps_accept {refreshTtl : Nat} {state next : SessionState} {input : SessionInput}
    {spawned : List SessionTask}
    (accepted : (sessionLoop refreshTtl).Accepts state input next spawned) (sound : Sound state) :
    Keeps Sound TokenRead state next spawned where
  invariant := ⟨tokensSound_of_after accepted.1 sound.1, answersSound_of_after accepted.1 sound.2⟩
  stable _ waits := waits.of_grows (grows_of_after accepted.1)
  fresh _ starts := tokenRead_of_begins (begins_of_starts (accepted.2 ▸ starts))

/-- Refresh tokens are for single use in every run whose rotations commit while the token they were
given is still not revoked. -/
theorem refresh_tokens_single_use {refreshTtl : Nat} {now : DateTime}
    {accounts : UserId → Option Account}
    {resetTokens : Table PasswordResetToken PasswordResetToken.id} {salts : Nat}
    {labels : List (Label SessionTask SessionInput)} {finish : State SessionState SessionTask}
    (steps : Steps
      (Guarded (Step (sessionLoop refreshTtl)) <| OnResume fun state task =>
        StillUnrevoked state task ∧ PresentedInTime state task)
      ⟨.initial now accounts resetTokens salts, []⟩ labels finish) :
    SingleUse finish.shared := by
  have run : Sound finish.shared ∧ ∀ task ∈ finish.tasks, TokenRead finish.shared task :=
    invariant_of_steps keeps_resume keeps_accept ⟨tokensSound_initial, answersSound_initial⟩ steps
  exact .of_sound run.1

/-- A user who has nothing but the session that begins. -/
def oneSession : SessionState :=
  .initial 0 (fun _ => none) .empty 0

/-- The first token of a session. -/
def firstToken : RefreshToken :=
  { id := ⟨1⟩, userId := ⟨1⟩, familyId := ⟨1⟩, expiresAt := 60 }

def firstTokens : Table RefreshToken RefreshToken.id where
  rows := [firstToken]
  keysNodup := nodup_singleton _

def oneToken : SessionState :=
  { oneSession with tokens := firstTokens }

theorem session_issued : (sessionLoop 60).Accepts oneSession (.issue ⟨1⟩ ⟨1⟩ ⟨1⟩) oneToken [] :=
  ⟨.issue nofun (Table.insert?_eq_some_iff.mpr ⟨nofun, rfl⟩), rfl⟩

/-- The state after the first rotation of the token. -/
def onceRotated : SessionState :=
  oneToken.rotate 60 firstToken ⟨2⟩

theorem presentedInTime_onceRotated : PresentedInTime onceRotated (.findToken ⟨1⟩ ⟨3⟩) :=
  forall_mem_cons.mpr
    ⟨fun other => absurd other (by decide), forall_mem_singleton.mpr fun _ _ => by decide⟩

/-- A rotation, and a second presentation of the token. -/
theorem second_presentation_burns : ∃ labels finish,
    Steps
        (Guarded (Step (sessionLoop 60)) <| OnResume fun state task =>
          StillUnrevoked state task ∧ PresentedInTime state task)
        ⟨oneSession, []⟩ labels finish ∧
      finish.shared.answers = [(⟨1⟩, .rotated ⟨2⟩), (⟨1⟩, .reused)] ∧ SingleUse finish.shared := by
  let Guard : State SessionState SessionTask → Label SessionTask SessionInput → Prop :=
    OnResume fun state task => StillUnrevoked state task ∧ PresentedInTime state task
  have issued : Guarded (Step (sessionLoop 60)) Guard ⟨oneSession, []⟩
      (.accept (.issue ⟨1⟩ ⟨1⟩ ⟨1⟩)) ⟨oneToken, []⟩ :=
    ⟨.accept session_issued, trivial⟩
  have presented : Guarded (Step (sessionLoop 60)) Guard ⟨oneToken, []⟩
      (.accept (.rotate ⟨1⟩ ⟨2⟩)) ⟨oneToken, [.findToken ⟨1⟩ ⟨2⟩]⟩ :=
    ⟨.accept ⟨.call (cons_ne_nil _ _), rfl⟩, trivial⟩
  have unrevoked : ∀ row ∈ oneToken.tokens, row.revokedAt = none :=
    forall_mem_singleton.mpr rfl
  obtain ⟨_, rotated⟩ := exists_guarded_runFirst 2 ((Steps.refl.step issued).step presented)
    ⟨⟨trivial, fun row present _ revoked => absurd (unrevoked row present) revoked⟩,
      ⟨fun row present _ => unrevoked row present, trivial⟩, trivial⟩
  have again : Guarded (Step (sessionLoop 60)) Guard ⟨onceRotated, []⟩
      (.accept (.rotate ⟨1⟩ ⟨3⟩)) ⟨onceRotated, [.findToken ⟨1⟩ ⟨3⟩]⟩ :=
    ⟨.accept ⟨.call (cons_ne_nil _ _), rfl⟩, trivial⟩
  obtain ⟨labels, steps⟩ := exists_guarded_runFirst 2 (rotated.step again)
    ⟨⟨trivial, presentedInTime_onceRotated⟩, ⟨trivial, trivial⟩, trivial⟩
  exact ⟨labels, _, steps, by decide, refresh_tokens_single_use steps⟩

/-- Two calls read the token before either of them rotates it, and both do. The family goes on with
two live tokens. -/
theorem rotated_twice : ∃ labels finish,
    Steps (Step (sessionLoop 60)) ⟨oneSession, []⟩ labels finish ∧
      finish.shared.rotatedTokens = [⟨1⟩, ⟨1⟩] ∧ ¬SingleUse finish.shared := by
  have issued : Steps (Step (sessionLoop 60)) ⟨oneSession, []⟩ [.accept (.issue ⟨1⟩ ⟨1⟩ ⟨1⟩)]
      ⟨oneToken, []⟩ :=
    Steps.singleton_iff.mpr (.accept session_issued)
  obtain ⟨labels, steps⟩ := exists_steps_calls issued
    [.accept (.rotate ⟨1⟩ ⟨2⟩), .run 0, .accept (.rotate ⟨1⟩ ⟨3⟩), .run 1, .run 0, .run 0] rfl
  refine ⟨labels, _, steps, by decide, fun singleUse => ?_⟩
  exact absurd singleUse.once (by decide)

end Bongtalk.Auth
