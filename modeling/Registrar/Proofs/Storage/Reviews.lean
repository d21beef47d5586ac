import Registrar.Proofs.Storage.ReviewFile

/-!
# Reviews are counted exactly

A review store is asked one thing after another, and any write may fail. What it holds after all
this is told by the requests and their answers: a room has an entry if a request that makes one was
answered, and its tally counts the scores that were accepted.

The change in memory comes before the write, and is taken back if the write fails. So what has to
be seen is that it is taken back to the letter, whether the room had an entry or not. Then memory
and file never part. Reading the file anew changes nothing if the totals are read back; that they
are is asked of the scores, because a total need not be read as it was written.

## Main definitions

* `ReviewRequest`, `ReviewAnswer`, `ReviewHistory` — what a store is asked, and what it says.
* `ReviewHistory.scores`, `ReviewHistory.tally?` — what a history says of a room.
* `ReviewHistory.TotalsReadBack` — all totals on the way are read back.
* `ReviewStore.Step` — all that one request can come to.
* `ReviewStore.Accounts`, `ReviewStore.Answered` — a store and an answer that agree with a history.

## Main results

* `ReviewStore.Kept.step` — what a request comes to while memory and file agree.
* `ReviewStore.run_accounts` — every store that was opened without a file agrees with its history.
-/

namespace Registrar

/-! ### Requests and answers -/

/-- What a review store can be asked. -/
inductive ReviewRequest where
  | submit (room : String) (score : Binary64)
  | openEntry (room : String)
  | get (room : String)
  | save
  | reopen

namespace ReviewRequest

/-- The room that is asked for. -/
def room? : ReviewRequest → Option String
  | submit room _ | openEntry room | get room => some room
  | save | reopen => none

/-- The room whose entry may change. -/
def opens? : ReviewRequest → Option String
  | submit room _ | openEntry room => some room
  | get _ | save | reopen => none

end ReviewRequest

/-- What a review store says, or why it does not. -/
inductive ReviewAnswer where
  | shown (outcome : Except StorageError ReviewSummary)
  | done (outcome : Except StorageError Unit)

namespace ReviewAnswer

/-- The error, if the answer is one. -/
def error? : ReviewAnswer → Option StorageError
  | shown (.error error) | done (.error error) => some error
  | shown (.ok _) | done (.ok _) => none

end ReviewAnswer

/-- Requests in the order in which they were made, each with its answer. -/
abbrev ReviewHistory := List (ReviewRequest × ReviewAnswer)

namespace ReviewStore

/-- The answer to a request, and the store after it. -/
def respond (store : ReviewStore) : ReviewRequest → ReviewAnswer × ReviewStore
  | .submit room score => ((submit room score).run store).map .shown fun store => store
  | .openEntry room => ((openEntry room).run store).map .shown fun store => store
  | .get room => ((get room).run store).map .shown fun store => store
  | .save => (save.run store).map .done fun store => store
  | .reopen => (start.run store).map .done fun store => store

/-- Asks one request after another: what came of it, and the store after it. -/
def run (store : ReviewStore) : List ReviewRequest → ReviewHistory × ReviewStore
  | [] => ([], store)
  | request :: requests =>
    let (answer, store) := store.respond request
    let (history, store) := store.run requests
    ((request, answer) :: history, store)

/-- The store that is opened on a disk. -/
def opened (path : Path) (disk : Disk) : ReviewStore :=
  (start.run ⟨path, [], disk⟩).2

end ReviewStore

/-! ### What a history says -/

namespace ReviewHistory

variable {history : ReviewHistory} {room : String}

/-- The score that a request has added to those of a room. -/
def score? (room : String) : ReviewRequest × ReviewAnswer → Option Binary64
  | (.submit other score, .shown (.ok _)) => if other = room then some score else none
  | _ => none

/-- Whether a request that makes an entry for a room has succeeded. -/
def makesEntry (room : String) : ReviewRequest × ReviewAnswer → Bool
  | (.submit other _, .shown (.ok _)) | (.openEntry other, .shown (.ok _)) => other = room
  | _ => false

/-- The scores of a room that were accepted, in their order. -/
def scores (history : ReviewHistory) (room : String) : List Binary64 :=
  history.filterMap (score? room)

/-- The sum of the accepted scores, added one after another. -/
def total (history : ReviewHistory) (room : String) : Binary64 :=
  (history.scores room).foldl Binary64.add .zero

/-- Whether an entry was made for a room. -/
def hasEntry (history : ReviewHistory) (room : String) : Bool :=
  history.any (makesEntry room)

/-- The tally that a room should have. -/
def tally? (history : ReviewHistory) (room : String) : Option Tally :=
  if history.hasEntry room then some ⟨history.total room, (history.scores room).length⟩ else none

/-- Every total that the accepted scores of a room have come to is read back from its text. -/
def TotalsReadBack (history : ReviewHistory) : Prop :=
  ∀ room n, (((history.scores room).take n).foldl Binary64.add .zero).reread =
    ((history.scores room).take n).foldl Binary64.add .zero

/-- The summary shows what a history says of a room. -/
structure Shows (history : ReviewHistory) (room : String) (summary : ReviewSummary) : Prop where
  name : summary.room = room
  total : summary.total = history.total room
  count : summary.count = (history.scores room).length
  average : summary.average = if summary.count = 0 then none
    else some (summary.total.div (Binary64.ofNat summary.count))

variable {step : ReviewRequest × ReviewAnswer}

theorem score?_eq_none (h : makesEntry room step = false) : score? room step = none := by
  unfold score?
  split
  · exact if_neg (of_decide_eq_false h)
  · rfl

/-- A room without an entry has no scores. -/
theorem scores_eq_nil (h : history.hasEntry room = false) : history.scores room = [] :=
  List.filterMap_eq_nil_iff.mpr fun step hstep =>
    score?_eq_none (Bool.of_not_eq_true (List.any_eq_false.mp h step hstep))

/-- A room that was not asked for has no scores. -/
theorem scores_eq_nil_of_opens? (h : ∀ step ∈ history, step.1.opens? ≠ some room) :
    history.scores room = [] := by
  refine List.filterMap_eq_nil_iff.mpr fun step hstep => ?_
  have hroom := h step hstep
  unfold score?
  split
  · exact if_neg fun heq => hroom (congrArg some heq)
  · rfl

theorem getD_tally? (history : ReviewHistory) (room : String) :
    (history.tally? room).getD .empty = ⟨history.total room, (history.scores room).length⟩ := by
  rw [tally?]
  split
  · rfl
  · next h =>
    rw [total, scores_eq_nil (Bool.of_not_eq_true h)]
    rfl

theorem isSome_tally? (history : ReviewHistory) (room : String) :
    (history.tally? room).isSome = history.hasEntry room := by
  rw [tally?]
  cases history.hasEntry room <;> rfl

theorem shows_summary {tally : Tally} (h : history.tally? room = some tally) :
    history.Shows room (tally.summary room) := by
  rw [tally?] at h
  split at h
  · cases h
    exact ⟨rfl, rfl, rfl, rfl⟩
  · cases h

theorem scores_append (history : ReviewHistory) (step : ReviewRequest × ReviewAnswer)
    (room : String) :
    scores (history ++ [step]) room = history.scores room ++ (score? room step).toList := by
  rw [scores, List.filterMap_append, List.filterMap_cons]
  cases score? room step <;> rfl

theorem TotalsReadBack.of_append (h : TotalsReadBack (history ++ [step])) :
    history.TotalsReadBack := by
  intro room n
  have hshorter : (history.scores room).take n =
      (scores (history ++ [step]) room).take (min n (history.scores room).length) := by
    rw [scores_append, List.take_append_of_le_length (Nat.min_le_right _ _), ← List.take_take,
      List.take_length]
  rw [hshorter]
  exact h room _

theorem TotalsReadBack.tally? (h : history.TotalsReadBack) {tally : Tally}
    (htally : history.tally? room = some tally) : tally.reread = tally := by
  have htotal : (history.total room).reread = history.total room := by
    have hall := h room (history.scores room).length
    rwa [List.take_length] at hall
  rw [ReviewHistory.tally?] at htally
  split at htally
  · rw [← Option.some.inj htally, Tally.reread, htotal]
  · cases htally

theorem hasEntry_append (history : ReviewHistory) (step : ReviewRequest × ReviewAnswer)
    (room : String) :
    hasEntry (history ++ [step]) room = (history.hasEntry room || makesEntry room step) := by
  rw [hasEntry, List.any_append, List.any_cons, List.any_nil, Bool.or_false, hasEntry]

/-- **What one more request says of a room**: it adds a score, makes an entry, or neither. -/
theorem tally?_append (history : ReviewHistory) (step : ReviewRequest × ReviewAnswer)
    (room : String) :
    tally? (history ++ [step]) room =
      match score? room step with
      | some score => some ⟨((history.tally? room).getD .empty).total.add score,
          ((history.tally? room).getD .empty).count + 1⟩
      | none => if makesEntry room step then some ((history.tally? room).getD .empty)
          else history.tally? room := by
  rw [getD_tally?, tally?, hasEntry_append, total, scores_append]
  cases hscore : score? room step with
  | some score =>
    have hmakes : makesEntry room step = true :=
      Bool.of_not_eq_false fun h => by cases hscore.symm.trans (score?_eq_none h)
    rw [hmakes, Bool.or_true, if_pos rfl, Option.toList_some, List.foldl_append,
      List.length_append]
    rfl
  | none =>
    rw [Option.toList_none, List.append_nil]
    cases hmakes : makesEntry room step with
    | true =>
      rw [Bool.or_true, if_pos rfl, if_pos rfl]
      rfl
    | false =>
      rw [Bool.or_false, if_neg Bool.false_ne_true]
      rfl

theorem tally?_append_of_makesEntry_eq_false (history : ReviewHistory)
    (h : makesEntry room step = false) : tally? (history ++ [step]) room = history.tally? room := by
  rw [tally?_append, score?_eq_none h, h]
  rfl

theorem tally?_append_submit (history : ReviewHistory) (asked : String) (score : Binary64)
    (summary : ReviewSummary) (room : String) :
    tally? (history ++ [(.submit asked score, .shown (.ok summary))]) room =
      if room = asked then some ⟨(history.total room).add score, (history.scores room).length + 1⟩
      else history.tally? room := by
  have hscore : score? room (.submit asked score, .shown (.ok summary)) =
      if asked = room then some score else none := rfl
  have hmakes : makesEntry room (.submit asked score, .shown (.ok summary)) =
      decide (asked = room) := rfl
  rw [tally?_append, getD_tally?, hscore, hmakes]
  by_cases h : room = asked
  · rw [if_pos h.symm, if_pos h]
  · rw [if_neg (Ne.symm h), if_neg h, decide_eq_false (Ne.symm h)]
    rfl

theorem tally?_append_openEntry (history : ReviewHistory) (asked : String)
    (summary : ReviewSummary) (room : String) :
    tally? (history ++ [(.openEntry asked, .shown (.ok summary))]) room =
      if room = asked then some ((history.tally? room).getD .empty) else history.tally? room := by
  have hscore : score? room (.openEntry asked, .shown (.ok summary)) = none := rfl
  have hmakes : makesEntry room (.openEntry asked, .shown (.ok summary)) =
      decide (asked = room) := rfl
  rw [tally?_append, hscore, hmakes]
  simp only [decide_eq_true_eq, eq_comm (a := asked)]

/-- An error makes no entry. -/
theorem makesEntry_eq_false {request : ReviewRequest} {answer : ReviewAnswer}
    (h : answer.error? ≠ none) : makesEntry room (request, answer) = false := by
  unfold makesEntry
  split
  · next heq =>
    cases heq
    exact absurd rfl h
  · next heq =>
    cases heq
    exact absurd rfl h
  · rfl

end ReviewHistory

/-! ### Scores -/

/-- A number is accepted exactly if it is one from zero to five. -/
theorem isScore_iff {score : Binary64} : isScore score = true ↔ score.FromZeroToFive := by
  have hzero : Binary64.zero.signedUnits = 0 := by decide
  have hfive : maxScore.signedUnits = 5 * Binary64.unitsPerOne := by decide +kernel
  rw [isScore]
  simp only [Bool.and_eq_true, Bool.not_eq_true']
  constructor
  · rintro ⟨⟨hfinite, hlow⟩, hhigh⟩
    have hnan := Binary64.isNaN_eq_false hfinite
    rw [Binary64.lt_eq_false_iff hnan (by decide), hzero] at hlow
    rw [Binary64.lt_eq_false_iff (by decide +kernel) hnan, hfive] at hhigh
    exact ⟨hfinite, hlow, hhigh⟩
  · rintro ⟨hfinite, hlow, hhigh⟩
    have hnan := Binary64.isNaN_eq_false hfinite
    rw [Binary64.lt_eq_false_iff hnan (by decide), hzero,
      Binary64.lt_eq_false_iff (by decide +kernel) hnan, hfive]
    exact ⟨⟨hfinite, hlow⟩, hhigh⟩

theorem Tally.Sound.addScore {tally : Tally} (h : tally.Sound) {score : Binary64}
    (hscore : score.FromZeroToFive) : (tally.addScore score).Sound :=
  ⟨Binary64.isFinite_add h.total hscore, Nat.mod_lt _ (twoPow_pos 64)⟩

/-! ### Memory and file -/

namespace ReviewStore

variable {store store' : ReviewStore} {room : String} {tally : Tally}

/-- What the file may be like: it holds the tallies, or those that they were read from. Without a
file there are none. -/
inductive KeptIn (tallies : List (String × Tally)) : Option (List UInt8) → Prop where
  | missing (h : tallies = []) : KeptIn tallies none
  | written : KeptIn tallies (some (utf8Bytes (document tallies)))
  | read {written : List (String × Tally)} (hsorted : Json.Sorted written)
      (hsound : ∀ entry ∈ written, entry.2.Sound) (h : tallies = rereadTallies written) :
      KeptIn tallies (some (utf8Bytes (document written)))

/-- Memory and file agree, and the tallies are such that they can be read. -/
structure Kept (store : ReviewStore) : Prop where
  sorted : Json.Sorted store.tallies
  sound : ∀ entry ∈ store.tallies, entry.2.Sound
  file : ∃ file?, store.disk.FileAt store.path file? ∧ KeptIn store.tallies file?

/-- The tallies and the file are what they were. -/
structure Unchanged (store store' : ReviewStore) : Prop where
  path : store'.path = store.path
  tallies : store'.tallies = store.tallies
  file : ∀ content, store'.disk.readBytes store.path = .ok content ↔
    store.disk.readBytes store.path = .ok content

theorem tally?_put (room : String) (tally : Tally) (other : String) :
    (store.put room tally).tally? other = if other = room then some tally else store.tally? other :=
  Json.lookup_insertMember

/-- **A change is taken back to the letter.** -/
theorem putBack_put (store : ReviewStore) (h : Json.Sorted store.tallies) (room : String)
    (tally : Tally) :
    (store.put room tally).putBack room (store.tally? room) = store := by
  have hput := Json.sorted_insertMember room tally h
  have hback (tallies : List (String × Tally)) (hsorted : Json.Sorted tallies)
      (hlookup : ∀ other, tallies.lookup other = store.tallies.lookup other) :
      ({ store with tallies } : ReviewStore) = store := by
    rw [hsorted.ext h hlookup]
  cases hprevious : store.tally? room with
  | some previous =>
    refine hback _ (Json.sorted_insertMember room previous hput) fun other => ?_
    rw [put, Json.lookup_insertMember, Json.lookup_insertMember]
    split
    · next heq => rw [heq, ← hprevious, tally?]
    · rfl
  | none =>
    refine hback _ (hput.sublist (List.filter_sublist.map _)) fun other => ?_
    rw [put, lookup_filter_ne, Json.lookup_insertMember]
    split
    · next heq => rw [heq, ← hprevious, tally?]
    · rfl

namespace Kept

theorem sound_of_tally? (h : store.Kept) (htally : store.tally? room = some tally) :
    tally.Sound := by
  obtain ⟨before, after, htallies, -⟩ := List.lookup_eq_some_iff.mp htally
  exact h.sound (room, tally) (htallies ▸ List.mem_append_right _ List.mem_cons_self)

/-- **Reading the file gives what is in memory, or what is read of it.** Memory and file agree
afterwards. -/
theorem talliesOnDisk_cases (h : store.Kept) :
    (ReviewStore.talliesOnDisk store.disk store.path = store.tallies ∨
      ReviewStore.talliesOnDisk store.disk store.path = rereadTallies store.tallies) ∧
      Kept { store with tallies := ReviewStore.talliesOnDisk store.disk store.path } := by
  obtain ⟨file?, hfile, hkept⟩ := h.file
  have htext {written : List (String × Tally)} (hsorted : Json.Sorted written)
      (hsound : ∀ entry ∈ written, entry.2.Sound)
      (hwritten : file? = some (utf8Bytes (document written))) :
      ReviewStore.talliesOnDisk store.disk store.path = rereadTallies written := by
    rw [ReviewStore.talliesOnDisk, Disk.readText, hfile.readBytes_eq_ok_iff.mpr hwritten, bind_ok,
      textOfUtf8?_utf8Bytes]
    change (readTallies (document written)).getD [] = rereadTallies written
    rw [readTallies_document hsorted hsound]
    rfl
  have hread {written : List (String × Tally)} (hsorted : Json.Sorted written)
      (hsound : ∀ entry ∈ written, entry.2.Sound)
      (hwritten : file? = some (utf8Bytes (document written))) :
      Kept { store with tallies := rereadTallies written } :=
    ⟨sorted_rereadTallies hsorted, sound_of_mem_rereadTallies hsound, file?, hfile,
      hwritten ▸ .read hsorted hsound rfl⟩
  cases hkept with
  | missing hnil =>
    have hnone : ReviewStore.talliesOnDisk store.disk store.path = store.tallies := by
      rw [ReviewStore.talliesOnDisk, Disk.readText]
      cases hread : store.disk.readBytes store.path with
      | error fault => exact hnil.symm
      | ok content => cases hfile.readBytes_eq_ok_iff.mp hread
    rw [hnone]
    exact ⟨.inl rfl, h⟩
  | written =>
    rw [htext h.sorted h.sound rfl]
    exact ⟨.inr rfl, hread h.sorted h.sound rfl⟩
  | read hsorted hsound hsame =>
    rw [htext hsorted hsound rfl]
    exact ⟨.inl hsame.symm, hread hsorted hsound rfl⟩

/-- **Reading the file gives what is in memory**, if this is read back. -/
theorem talliesOnDisk (h : store.Kept) (hback : rereadTallies store.tallies = store.tallies) :
    ReviewStore.talliesOnDisk store.disk store.path = store.tallies :=
  h.talliesOnDisk_cases.1.elim id fun hread => hread.trans hback

/-- What is in memory is read back if the tally of every room is. -/
theorem rereadTallies_eq (h : store.Kept)
    (hback : ∀ room tally, store.tally? room = some tally → tally.reread = tally) :
    rereadTallies store.tallies = store.tallies := by
  refine (List.map_congr_left fun entry hentry => ?_).trans (List.map_id _)
  have hfound : store.tally? entry.1 = some entry.2 :=
    lookup_of_mem (Json.nodup_of_increasing h.sorted) hentry
  rw [hback entry.1 entry.2 hfound]
  rfl

/-- A file that is still there agrees with memory as it did. -/
theorem unchanged (h : store.Kept) {disk : Disk} {file? : Option (List UInt8)}
    (hfile : store.disk.FileAt store.path file?) (hdisk : disk.FileAt store.path file?) :
    Kept { store with disk := disk } ∧ Unchanged store { store with disk := disk } := by
  obtain ⟨_, hfile', htallies⟩ := h.file
  obtain rfl := hfile.unique hfile'
  refine ⟨⟨h.sorted, h.sound, file?, hdisk, htallies⟩, rfl, rfl, fun content => ?_⟩
  exact hdisk.readBytes_eq_ok_iff.trans hfile.readBytes_eq_ok_iff.symm

theorem put (h : store.Kept) (hsound : tally.Sound) (room : String) {disk : Disk}
    (hdisk : disk.FileAt store.path
      (some (utf8Bytes (document (Json.insertMember room tally store.tallies))))) :
    Kept { store.put room tally with disk := disk } where
  sorted := Json.sorted_insertMember room tally h.sorted
  sound := fun entry hentry => by
    obtain rfl | hentry := Json.of_mem_insertMember hentry
    · exact hsound
    · exact h.sound entry hentry
  file := ⟨_, hdisk, .written⟩

/-- **A tally is set in memory and file, or in neither.** -/
theorem run_commit (h : store.Kept) (hsound : tally.Sound) (room : String) :
    ∃ store', store'.Kept ∧
      ((∃ fault, (commit room tally).run store = (.error (.ofDiskFault fault), store') ∧
          Unchanged store store' ∧ ¬store.disk.Open store.path) ∨
        (commit room tally).run store = (.ok (), store') ∧ ∀ other, store'.tally? other =
          if other = room then some tally else store.tally? other) := by
  obtain ⟨file?, hfile, -⟩ := h.file
  have hput : (commit room tally).run store =
      (tryCatch (write (store.put room tally).tallies) fun error => do
        modify (putBack room (store.tally? room))
        throw error : Action Unit).run (store.put room tally) := rfl
  obtain ⟨disk, ⟨fault, hwrite, hdisk, hopen⟩ | ⟨hwrite, hdisk⟩⟩ :=
    run_write (store.put room tally) hfile (store.put room tally).tallies
  · obtain ⟨hkept, hunchanged⟩ := h.unchanged hfile hdisk
    refine ⟨_, hkept, .inl ⟨fault, ?_, hunchanged, hopen⟩⟩
    rw [hput, run_tryCatch_error hwrite]
    exact congrArg (Prod.mk _) (putBack_put { store with disk := disk } h.sorted room tally)
  · exact ⟨_, h.put hsound room hdisk, .inr ⟨hput.trans (run_tryCatch_ok hwrite),
      tally?_put room tally⟩⟩

/-- **The tallies are written as they are in memory.** -/
theorem run_save (h : store.Kept) :
    ∃ store', store'.Kept ∧
      ((∃ fault, save.run store = (.error (.ofDiskFault fault), store') ∧
          Unchanged store store' ∧ ¬store.disk.Open store.path) ∨
        save.run store = (.ok (), store') ∧ store'.tallies = store.tallies) := by
  obtain ⟨file?, hfile, -⟩ := h.file
  rw [save, run_bind_ok run_get]
  obtain ⟨disk, ⟨fault, hwrite, hdisk, hopen⟩ | ⟨hwrite, hdisk⟩⟩ :=
    run_write store hfile store.tallies
  · obtain ⟨hkept, hunchanged⟩ := h.unchanged hfile hdisk
    exact ⟨_, hkept, .inl ⟨fault, hwrite, hunchanged, hopen⟩⟩
  · exact ⟨{ store with disk := disk }, ⟨h.sorted, h.sound, _, hdisk, .written⟩,
      .inr ⟨hwrite, rfl⟩⟩

/-- A store that is opened where there is no file has no tallies. -/
theorem opened {path : Path} {disk : Disk} (h : disk.FileAt path none) :
    (opened path disk).Kept ∧ (ReviewStore.opened path disk).tallies = [] := by
  have hempty : Kept ⟨path, [], disk⟩ :=
    ⟨Json.sorted_nil, List.forall_mem_nil _, none, h, .missing rfl⟩
  have hread := hempty.talliesOnDisk rfl
  exact ⟨hempty.talliesOnDisk_cases.2, hread⟩

end Kept

/-! ### One request -/

/-- The request has something to write. -/
def Writes (store : ReviewStore) : ReviewRequest → Prop
  | .submit _ score => score.FromZeroToFive
  | .openEntry room => store.tally? room = none
  | .save => True
  | .get _ | .reopen => False

/-- All that one request can come to. -/
inductive Step (store : ReviewStore) : ReviewRequest → ReviewAnswer → ReviewStore → Prop where
  | refused {room : String} {score : Binary64} (h : ¬score.FromZeroToFive) :
      Step store (.submit room score) (.shown (.error (.invalidScore score))) store
  | submitted {room : String} {score : Binary64} {tally : Tally} {store' : ReviewStore}
      (h : score.FromZeroToFive)
      (htally : tally = ((store.tally? room).getD .empty).addScore score)
      (hput : ∀ other, store'.tally? other = if other = room then some tally
        else store.tally? other) :
      Step store (.submit room score) (.shown (.ok (tally.summary room))) store'
  | made {room : String} {store' : ReviewStore} (h : store.tally? room = none)
      (hput : ∀ other, store'.tally? other = if other = room then some .empty
        else store.tally? other) :
      Step store (.openEntry room) (.shown (.ok (Tally.empty.summary room))) store'
  | found {request : ReviewRequest} {room : String} {tally : Tally}
      (hroom : request = .openEntry room ∨ request = .get room)
      (h : store.tally? room = some tally) :
      Step store request (.shown (.ok (tally.summary room))) store
  | missing {room : String} (h : store.tally? room = none) :
      Step store (.get room) (.shown (.error (.reviewNotFound room))) store
  | saved {store' : ReviewStore} (h : store'.tallies = store.tallies) :
      Step store .save (.done (.ok ())) store'
  | reopened : Step store .reopen (.done (.ok ()))
      { store with tallies := talliesOnDisk store.disk store.path }
  | failed {request : ReviewRequest} {answer : ReviewAnswer} {fault : DiskFault}
      {store' : ReviewStore} (hwrites : store.Writes request)
      (hanswer : answer.error? = some (.ofDiskFault fault)) (h : Unchanged store store')
      (hopen : ¬store.disk.Open store.path) : Step store request answer store'

theorem run_submit (store : ReviewStore) (room : String) (score : Binary64) :
    (submit room score).run store =
      if isScore score = true then
        (commit room (((store.tally? room).getD .empty).addScore score) >>= fun _ =>
          return (((store.tally? room).getD .empty).addScore score).summary room).run store
      else (.error (.invalidScore score), store) := by
  rw [submit]
  cases isScore score with
  | false => rfl
  | true =>
    simp only [Bool.not_true, Bool.false_eq_true, if_false, if_true]
    exact run_bind_ok run_get

/-- **What a request comes to**, and memory and file agree after it. -/
theorem Kept.step (h : store.Kept) (request : ReviewRequest) :
    Step store request (store.respond request).1 (store.respond request).2 ∧
      (store.respond request).2.Kept := by
  cases request with
  | submit room score =>
    rw [respond, run_submit]
    split
    · next hscore =>
      have hgood := isScore_iff.mp hscore
      have hprevious : ((store.tally? room).getD .empty).Sound := by
        cases htally : store.tally? room with
        | some tally => exact h.sound_of_tally? htally
        | none => exact Tally.sound_empty
      obtain ⟨store', hkept, ⟨fault, hrun, hunchanged, hopen⟩ | ⟨hrun, hput⟩⟩ :=
        h.run_commit (hprevious.addScore hgood) room
      · rw [run_bind_error hrun]
        exact ⟨.failed hgood rfl hunchanged hopen, hkept⟩
      · rw [run_bind_ok hrun]
        exact ⟨.submitted hgood rfl hput, hkept⟩
    · next hscore => exact ⟨.refused fun hgood => hscore (isScore_iff.mpr hgood), h⟩
  | openEntry room =>
    rw [respond, openEntry, run_bind_ok run_get]
    cases htally : store.tally? room with
    | some tally => exact ⟨.found (.inl rfl) htally, h⟩
    | none =>
      obtain ⟨store', hkept, ⟨fault, hrun, hunchanged, hopen⟩ | ⟨hrun, hput⟩⟩ :=
        h.run_commit Tally.sound_empty room
      · simp only [run_bind_error hrun]
        exact ⟨.failed htally rfl hunchanged hopen, hkept⟩
      · simp only [run_bind_ok hrun]
        exact ⟨.made htally hput, hkept⟩
  | get room =>
    rw [respond, get, run_bind_ok run_get]
    cases htally : store.tally? room with
    | some tally => exact ⟨.found (.inr rfl) htally, h⟩
    | none => exact ⟨.missing htally, h⟩
  | save =>
    obtain ⟨store', hkept, ⟨fault, hrun, hunchanged, hopen⟩ | ⟨hrun, htallies⟩⟩ := h.run_save
    · rw [respond, hrun]
      exact ⟨.failed trivial rfl hunchanged hopen, hkept⟩
    · rw [respond, hrun]
      exact ⟨.saved htallies, hkept⟩
  | reopen => exact ⟨.reopened, h.talliesOnDisk_cases.2⟩

namespace Step

variable {history : ReviewHistory} {request : ReviewRequest} {answer : ReviewAnswer}

/-- **A store that agrees with a history agrees with it after one more request.** -/
theorem tally?_eq (h : Step store request answer store')
    (hback : talliesOnDisk store.disk store.path = store.tallies)
    (htally : ∀ room, store.tally? room = history.tally? room)
    (hcount : ∀ room, (ReviewHistory.scores (history ++ [(request, answer)]) room).length <
      Tally.countBound) (room : String) :
    store'.tally? room = ReviewHistory.tally? (history ++ [(request, answer)]) room := by
  have hkept (heq : store'.tally? room = store.tally? room)
      (hmakes : ReviewHistory.makesEntry room (request, answer) = false) :
      store'.tally? room = ReviewHistory.tally? (history ++ [(request, answer)]) room := by
    rw [heq, htally, ReviewHistory.tally?_append_of_makesEntry_eq_false history hmakes]
  cases h with
  | refused | missing => exact hkept rfl rfl
  | reopened => exact hkept (congrArg (List.lookup room) hback) rfl
  | saved h => exact hkept (congrArg (List.lookup room) h) rfl
  | failed _ hanswer h =>
    exact hkept (congrArg (List.lookup room) h.tallies)
      (ReviewHistory.makesEntry_eq_false (by simp [hanswer]))
  | @submitted asked score tally _ _ hsum hput =>
    rw [hput, ReviewHistory.tally?_append_submit, ← htally]
    split
    · next heq =>
      subst heq
      have hbound := hcount room
      rw [ReviewHistory.scores_append, List.length_append, ReviewHistory.score?, if_pos rfl,
        Option.toList_some, List.length_singleton] at hbound
      rw [hsum, htally, Tally.addScore, ReviewHistory.getD_tally?]
      simp only [Nat.mod_eq_of_lt hbound]
    · rfl
  | @made asked _ hnone hput =>
    rw [hput, ReviewHistory.tally?_append_openEntry, ← htally]
    split
    · next heq => rw [heq, hnone, Option.getD_none]
    · rfl
  | @found _ asked tally hroom hfound =>
    obtain rfl | rfl := hroom
    · rw [ReviewHistory.tally?_append_openEntry, ← htally]
      split
      · next heq => rw [heq, hfound, Option.getD_some]
      · rfl
    · exact hkept rfl rfl

end Step

/-! ### All requests -/

/-- A store agrees with a history: every room has the tally that its accepted scores come to, and
reading the file gives what is in memory. -/
structure Accounts (store : ReviewStore) (history : ReviewHistory) : Prop where
  tally : ∀ room, store.tally? room = history.tally? room
  onDisk : talliesOnDisk store.disk store.path = store.tallies

/-- An answer agrees with a history, and a request changes no more of a store than it should. -/
structure Answered (store : ReviewStore) (history : ReviewHistory) (request : ReviewRequest)
    (answer : ReviewAnswer) (store' : ReviewStore) : Prop where
  /-- What is shown is what all requests have come to, this one included. -/
  shows : ∀ summary, answer = .shown (.ok summary) → ∃ room, request.room? = some room ∧
    ReviewHistory.Shows (history ++ [(request, answer)]) room summary
  /-- Exactly the scores that are not from zero to five are refused. -/
  refused : ∀ room score, request = .submit room score →
    (answer = .shown (.error (.invalidScore score)) ↔ ¬score.FromZeroToFive)
  /-- Exactly the rooms without an entry are not found. -/
  missing : ∀ room, request = .get room →
    (answer = .shown (.error (.reviewNotFound room)) ↔ history.hasEntry room = false)
  /-- Whatever else goes wrong is a fault of the disk, in something that had to be written. -/
  faulty : ∀ error, answer.error? = some error →
    (∃ room score, request = .submit room score ∧ error = .invalidScore score) ∨
    (∃ room, request = .get room ∧ error = .reviewNotFound room) ∨
    ∃ fault, error = .ofDiskFault fault ∧ store.Writes request ∧ ¬store.disk.Open store.path
  /-- An error changes nothing. -/
  unchanged : answer.error? ≠ none → Unchanged store store'
  /-- The entries of other rooms are left alone. -/
  others : ∀ room, request.opens? ≠ some room → store'.tally? room = store.tally? room
  /-- Reading the file anew changes nothing. -/
  reopened : request = .reopen → answer = .done (.ok ()) ∧ store' = store

theorem Unchanged.refl (store : ReviewStore) : Unchanged store store :=
  ⟨rfl, rfl, fun _ => .rfl⟩

namespace Step

variable {history : ReviewHistory} {request : ReviewRequest} {answer : ReviewAnswer}

/-- What is shown is the tally of the room that was asked for. -/
theorem exists_tally (h : Step store request answer store') {summary : ReviewSummary}
    (hanswer : answer = .shown (.ok summary)) : ∃ room tally, request.room? = some room ∧
      summary = tally.summary room ∧ store'.tally? room = some tally := by
  cases h with
  | @submitted room _ tally _ _ _ hput =>
    cases hanswer
    exact ⟨room, tally, rfl, rfl, (hput room).trans (if_pos rfl)⟩
  | @made room _ _ hput =>
    cases hanswer
    exact ⟨room, .empty, rfl, rfl, (hput room).trans (if_pos rfl)⟩
  | @found _ room tally hroom hfound =>
    cases hanswer
    refine ⟨room, tally, ?_, rfl, hfound⟩
    obtain rfl | rfl := hroom <;> rfl
  | failed _ herror =>
    subst hanswer
    cases herror
  | refused | missing | saved | reopened => cases hanswer

theorem refused_iff {score : Binary64} (h : Step store (.submit room score) answer store') :
    answer = .shown (.error (.invalidScore score)) ↔ ¬score.FromZeroToFive := by
  cases h with
  | refused hbad => exact ⟨fun _ => hbad, fun _ => rfl⟩
  | submitted hgood => exact ⟨fun heq => (nomatch heq), fun hbad => absurd hgood hbad⟩
  | found hroom => exact hroom.elim (fun heq => (nomatch heq)) fun heq => (nomatch heq)
  | failed hgood herror =>
    refine ⟨fun heq => ?_, fun hbad => absurd hgood hbad⟩
    rw [heq] at herror
    cases herror

theorem missing_iff (h : Step store (.get room) answer store') :
    answer = .shown (.error (.reviewNotFound room)) ↔ store.tally? room = none := by
  cases h with
  | missing hnone => exact ⟨fun _ => hnone, fun _ => rfl⟩
  | @found _ _ tally hroom hfound =>
    obtain heq | heq := hroom
    · cases heq
    · cases heq
      exact ⟨fun heq => (nomatch heq), fun hnone => (nomatch hnone.symm.trans hfound)⟩
  | failed hwrites => exact hwrites.elim

theorem error_cases (h : Step store request answer store') {error : StorageError}
    (herror : answer.error? = some error) :
    (∃ room score, request = .submit room score ∧ error = .invalidScore score) ∨
    (∃ room, request = .get room ∧ error = .reviewNotFound room) ∨
    ∃ fault, error = .ofDiskFault fault ∧ store.Writes request ∧ ¬store.disk.Open store.path := by
  cases h with
  | @refused room score =>
    cases herror
    exact .inl ⟨room, score, rfl, rfl⟩
  | @missing room =>
    cases herror
    exact .inr (.inl ⟨room, rfl, rfl⟩)
  | @failed _ _ fault _ hwrites hanswer _ hopen =>
    cases herror.symm.trans hanswer
    exact .inr (.inr ⟨fault, rfl, hwrites, hopen⟩)
  | submitted | made | found | saved | reopened => cases herror

theorem unchanged (h : Step store request answer store') (herror : answer.error? ≠ none) :
    Unchanged store store' := by
  cases h with
  | refused | missing => exact .refl store
  | failed _ _ h => exact h
  | submitted | made | found | saved | reopened => exact absurd rfl herror

theorem tally?_other (h : Step store request answer store')
    (hback : talliesOnDisk store.disk store.path = store.tallies)
    (hroom : request.opens? ≠ some room) : store'.tally? room = store.tally? room := by
  cases h with
  | submitted _ _ hput => exact (hput room).trans (if_neg fun heq => hroom (congrArg some heq.symm))
  | made _ hput => exact (hput room).trans (if_neg fun heq => hroom (congrArg some heq.symm))
  | saved htallies => exact congrArg (List.lookup room) htallies
  | failed _ _ h => exact congrArg (List.lookup room) h.tallies
  | reopened => exact congrArg (List.lookup room) hback
  | refused | found | missing => rfl

theorem eq_of_reopen (h : Step store .reopen answer store')
    (hback : talliesOnDisk store.disk store.path = store.tallies) :
    answer = .done (.ok ()) ∧ store' = store := by
  cases h with
  | reopened => exact ⟨rfl, by rw [hback]⟩
  | found hroom => exact hroom.elim (fun heq => (nomatch heq)) fun heq => (nomatch heq)
  | failed hwrites => exact hwrites.elim

/-- **An answer agrees with a history** if the stores before and after it do. -/
theorem answered (h : Step store request answer store')
    (hback : talliesOnDisk store.disk store.path = store.tallies)
    (htally : ∀ room, store.tally? room = history.tally? room)
    (htally' : ∀ room,
      store'.tally? room = ReviewHistory.tally? (history ++ [(request, answer)]) room) :
    store.Answered history request answer store' where
  shows summary hanswer := by
    obtain ⟨room, tally, hroom, rfl, hfound⟩ := h.exists_tally hanswer
    exact ⟨room, hroom, ReviewHistory.shows_summary ((htally' room).symm.trans hfound)⟩
  refused room score hrequest := by
    subst hrequest
    exact h.refused_iff
  missing room hrequest := by
    subst hrequest
    rw [h.missing_iff, ← ReviewHistory.isSome_tally?, ← htally, Option.isSome_eq_false_iff,
      Option.isNone_iff_eq_none]
  faulty error herror := h.error_cases herror
  unchanged := h.unchanged
  others room hroom := h.tally?_other hback hroom
  reopened hrequest := by
    subst hrequest
    exact h.eq_of_reopen hback

end Step

/-! ### A run of requests -/

/-- The last request of a run is asked of the store after the others. -/
theorem run_append (store : ReviewStore) (requests : List ReviewRequest)
    (request : ReviewRequest) :
    store.run (requests ++ [request]) =
      ((store.run requests).1 ++ [(request, ((store.run requests).2.respond request).1)],
        ((store.run requests).2.respond request).2) := by
  induction requests generalizing store with
  | nil => rfl
  | cons first requests ih =>
    have hrun (requests : List ReviewRequest) : store.run (first :: requests) =
        ((first, (store.respond first).1) :: ((store.respond first).2.run requests).1,
          ((store.respond first).2.run requests).2) := rfl
    rw [List.cons_append, hrun, hrun, ih]
    rfl

/-- A history tells what was asked. -/
theorem map_fst_run (store : ReviewStore) (requests : List ReviewRequest) :
    (store.run requests).1.map Prod.fst = requests := by
  induction requests generalizing store with
  | nil => rfl
  | cons first requests ih => exact congrArg (List.cons first) (ih (store.respond first).2)

/-- Reading the file gives what is in memory if this agrees with a history whose totals are read
back. -/
theorem Kept.talliesOnDisk_of_history (h : store.Kept) {history : ReviewHistory}
    (htally : ∀ room, store.tally? room = history.tally? room) (hback : history.TotalsReadBack) :
    ReviewStore.talliesOnDisk store.disk store.path = store.tallies :=
  h.talliesOnDisk (h.rereadTallies_eq fun room _ hfound =>
    hback.tally? ((htally room).symm.trans hfound))

/-- **Memory and file agree with each other and with the history all the time.** -/
theorem Kept.run (h : store.Kept) (hempty : store.tallies = []) (requests : List ReviewRequest)
    (hcount : ∀ room, ((store.run requests).1.scores room).length < Tally.countBound)
    (hback : (store.run requests).1.TotalsReadBack) :
    (store.run requests).2.Kept ∧
      ∀ room, (store.run requests).2.tally? room = (store.run requests).1.tally? room := by
  induction requests using List.reverseRecOn with
  | nil => exact ⟨h, fun room => congrArg (List.lookup room) hempty⟩
  | append_singleton requests request ih =>
    rw [run_append] at hcount hback ⊢
    obtain ⟨hkept, htally⟩ := ih (fun room => by
      have hlonger := hcount room
      rw [ReviewHistory.scores_append, List.length_append] at hlonger
      omega) hback.of_append
    obtain ⟨hstep, hkept'⟩ := hkept.step request
    have hread := hkept.talliesOnDisk_of_history htally hback.of_append
    exact ⟨hkept', hstep.tally?_eq hread htally hcount⟩

/-- **Reviews are counted exactly.** A store is opened where there is no file, on whatever disk and
with whatever faults ahead, and asked any requests, though not so many that the scores of a room
cannot be counted in 64 bits, and the totals that it comes to are read back. After every one of them
the store agrees with what was asked and answered, in memory and in the file, and so does the
answer. -/
theorem run_accounts {path : Path} {disk : Disk} (hnone : disk.FileAt path none)
    (requests : List ReviewRequest) (request : ReviewRequest)
    (hcount : ∀ room, (((opened path disk).run (requests ++ [request])).1.scores room).length <
      Tally.countBound)
    (hback : ((opened path disk).run (requests ++ [request])).1.TotalsReadBack) :
    let before := (opened path disk).run requests
    let after := before.2.respond request
    before.2.Accounts before.1 ∧ after.2.Accounts (before.1 ++ [(request, after.1)]) ∧
      before.2.Answered before.1 request after.1 after.2 := by
  intro before after
  obtain ⟨hopened, hempty⟩ := Kept.opened hnone
  rw [run_append] at hcount hback
  obtain ⟨hkept, htally⟩ := hopened.run hempty requests (fun room => by
    have hlonger := hcount room
    rw [ReviewHistory.scores_append, List.length_append] at hlonger
    omega) hback.of_append
  obtain ⟨hstep, hkept'⟩ := hkept.step request
  have hread := hkept.talliesOnDisk_of_history htally hback.of_append
  have htally' := hstep.tally?_eq hread htally hcount
  have hread' := hkept'.talliesOnDisk_of_history htally' hback
  exact ⟨⟨htally, hread⟩, ⟨htally', hread'⟩, hstep.answered hread htally htally'⟩

/-- The second score cannot be written, and the file is read anew before the third one. The room
has the first and the third. -/
theorem run_accounts_secondLost :
    let path : Path := ["data", "reviews.json"]
    let disk : Disk := ⟨[], [false, false, false, true]⟩
    let before := (opened path disk).run [.submit "DMP 110" (Binary64.ofNat 4),
      .submit "DMP 110" (Binary64.ofNat 3), .reopen]
    let last := ReviewRequest.submit "DMP 110" (Binary64.ofNat 5)
    let after := before.2.respond last
    disk.FileAt path none ∧
      before.1.map (fun step => step.2.error?) = [none, some (.ofDiskFault .scheduled), none] ∧
      after.2.tally? "DMP 110" = some ⟨Binary64.ofNat 9, 2⟩ ∧
      before.2.Accounts before.1 ∧ after.2.Accounts (before.1 ++ [(last, after.1)]) ∧
      before.2.Answered before.1 last after.1 after.2 := by
  intro path disk before last after
  have hnone : disk.FileAt path none := by
    rintro content ⟨⟩
  have herrors : before.1.map (fun step => step.2.error?) =
      [none, some (.ofDiskFault .scheduled), none] := by
    subst before disk path
    decide +kernel
  have htally : after.2.tally? "DMP 110" = some ⟨Binary64.ofNat 9, 2⟩ := by
    subst after last before disk path
    decide +kernel
  let requests := [.submit "DMP 110" (Binary64.ofNat 4), .submit "DMP 110" (Binary64.ofNat 3),
    .reopen, last]
  have hasked := map_fst_run (opened path disk) requests
  have hcount (room : String) :
      (((opened path disk).run requests).1.scores room).length < Tally.countBound :=
    Nat.lt_of_le_of_lt (List.length_filterMap_le _ _) (by
      rw [← List.length_map Prod.fst, hasked]
      decide)
  have hback : ((opened path disk).run requests).1.TotalsReadBack := by
    intro room n
    by_cases hroom : room = "DMP 110"
    · have hscores : ((opened path disk).run requests).1.scores "DMP 110" =
          [Binary64.ofNat 4, Binary64.ofNat 5] := by
        subst requests last disk path
        decide +kernel
      rw [hroom, hscores]
      match n with
      | 0 | 1 => decide +kernel
      | n + 2 =>
        rw [List.take_of_length_le (Nat.le_add_left 2 n)]
        decide +kernel
    · have hopens : ∀ asked ∈ requests, asked.opens? ∈ [some "DMP 110", none] := by decide
      rw [ReviewHistory.scores_eq_nil_of_opens? fun step hstep heq => ?_, List.take_nil]
      · decide +kernel
      · have hone := hopens step.1 (hasked ▸ List.mem_map_of_mem hstep)
        rw [heq] at hone
        simp [hroom] at hone
  exact ⟨hnone, herrors, htally, run_accounts hnone _ last hcount hback⟩

end ReviewStore

end Registrar
