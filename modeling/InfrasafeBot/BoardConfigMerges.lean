import InfrasafeBot.BoardConfig

/-! What a sequence of saves keeps of the board: its modules, the fields that are not sent and
the start of the posting, and that what was returned can be saved again. -/

set_option autoImplicit false

namespace InfrasafeBot.BoardConfig

open Library.KeyedLists Library.Machine RequestWorkflow

structure Merged (before after : BoardConfigFields) (updates : Updates) : Prop where
  modules : (after.layout.map LayoutItem.id).Perm allModuleIds
  sentModules : ∀ sent, updates.layout = some sent →
    firsts LayoutItem.id allModuleIds [] sent <+: after.layout
  unsentModules : ∀ sent, updates.layout = some sent → ∀ id ∈ allModuleIds,
    id ∉ sent.map LayoutItem.id →
    lookup LayoutItem.id after.layout id = lookup LayoutItem.id before.layout id
  layout : updates.layout = none → after.layout = before.layout
  org : after.org = updates.org.getD before.org
  contacts : after.contacts = updates.contacts.getD before.contacts
  bot : after.bot = updates.bot.getD before.bot
  announcements : after.announcements = updates.announcements.getD before.announcements
  workingHours : after.workingHours = updates.workingHours.getD before.workingHours
  workReports : updates.workReports = none → ∀ since,
    { after.workReports with autopostSince := since } = { before.workReports with autopostSince := since }

def turnsOn (row : Option BoardConfigRow) (call : Call) : Bool :=
  !(storedFields row).workReports.autopost &&
    (mergeAndSaveBoardConfig row call).any fun saved => saved.fields.workReports.autopost

def lastTurnedOn (history : List (Option BoardConfigRow × Call)) : Option Moment :=
  (history.reverse.find? fun taken => turnsOn taken.1 taken.2).map fun taken => taken.2.now

/-- What is saved by a call that follows others. -/
structure SavedWell (start : Option BoardConfigRow) (past : List Call) (call : Call)
    (saved : StoredBoardConfigData) : Prop where
  merged : ∃ before, loadBoardConfig (run save start past) = some before ∧
    Merged before.fields saved.fields call.updates
  since : saved.fields.workReports.autopostSince =
    if saved.fields.workReports.autopost then
      (lastTurnedOn (trace save start (past ++ [call]))).or
        (storedFields start).workReports.autopostSince
    else none
  resaved : ∀ again : Call, again.updates = .whole saved.fields →
    mergeAndSaveBoardConfig (run save start (past ++ [call])) again = some saved

section

variable {row : Option BoardConfigRow} {call : Call} {saved : StoredBoardConfigData}
  {fields : BoardConfigFields}

theorem modelValidate_eq_some :
    modelValidate fields = some saved ↔
      fields.accepted = true ∧ fields.normalized = saved.fields := by
  unfold modelValidate
  constructor
  · intro validated
    split at validated
    · next accepted =>
        cases validated
        exact ⟨accepted, rfl⟩
    · cases validated
  · rintro ⟨accepted, normal⟩
    obtain ⟨stored, valid, fixed⟩ := saved
    dsimp only at normal
    subst normal
    rw [dif_pos accepted]

theorem modelValidate_stored (stored : StoredBoardConfigData) : modelValidate stored.fields = some stored :=
  modelValidate_eq_some.mpr ⟨stored.accepted, stored.normal⟩

theorem load_of_accepted (accepted : (storedFields row).accepted = true) :
    ∃ before, loadBoardConfig row = some before ∧
      before.fields = (storedFields row).normalized := by
  refine ⟨⟨_, accepted_normalized accepted, normalized_idem _⟩, ?_, rfl⟩
  rw [loadBoardConfig, modelValidate, dif_pos accepted, Option.some_or]

theorem save_of_saved (returned : mergeAndSaveBoardConfig row call = some saved) :
    save row call = some ⟨some saved.fields, some call.updatedBy⟩ := by
  rw [save, returned]

theorem save_of_refused (refused : mergeAndSaveBoardConfig row call = none) : save row call = row := by
  rw [save, refused]

theorem storedFields_of_saved (returned : mergeAndSaveBoardConfig row call = some saved) :
    storedFields (save row call) = saved.fields := by
  rw [save_of_saved returned]
  rfl

theorem accepted_save (accepted : (storedFields row).accepted = true) (call : Call) :
    (storedFields (save row call)).accepted = true := by
  cases returned : mergeAndSaveBoardConfig row call with
  | none =>
    rw [save_of_refused returned]
    exact accepted
  | some saved =>
    rw [storedFields_of_saved returned]
    exact saved.accepted

section

variable (returned : mergeAndSaveBoardConfig row call = some saved)

include returned

theorem fields_of_saved :
    saved.fields = (mergedFields (storedFields row) call.updates call.now).normalized :=
  (modelValidate_eq_some.mp returned).2.symm

theorem merged_of_saved :
    Merged (storedFields row).normalized saved.fields call.updates := by
  have layout : saved.fields.layout =
      normalizeLayout (mergedFields (storedFields row) call.updates call.now).layout :=
    congrArg BoardConfigFields.layout (fields_of_saved returned)
  constructor
  · rw [layout]
    exact keys_complete_perm moduleDefault_id allModuleIds_nodup
  · intro sent listed
    rw [layout, mergedFields, listed]
    exact firsts_begin_complete_union
  · intro sent listed id known unsent
    rw [layout, mergedFields, listed]
    exact lookup_complete_union moduleDefault_id known unsent
  · intro unsent
    rw [layout, mergedFields, unsent]
    rfl
  · exact congrArg BoardConfigFields.org (fields_of_saved returned)
  · exact congrArg BoardConfigFields.contacts (fields_of_saved returned)
  · exact congrArg BoardConfigFields.bot (fields_of_saved returned)
  · exact congrArg BoardConfigFields.announcements (fields_of_saved returned)
  · exact congrArg BoardConfigFields.workingHours (fields_of_saved returned)
  · intro unsent since
    rw [fields_of_saved returned]
    simp only [BoardConfigFields.normalized, mergedFields, unsent, Option.getD_none]

theorem workReports_of_saved :
    saved.fields.workReports.autopost =
        (call.updates.workReports.getD (storedFields row).workReports).autopost ∧
      saved.fields.workReports.autopostSince =
        stampedSince (storedFields row).workReports
          (call.updates.workReports.getD (storedFields row).workReports) call.now := by
  rw [fields_of_saved returned]
  exact ⟨rfl, rfl⟩

end

theorem resave (stored : StoredBoardConfigData) (same : storedFields row = stored.fields)
    (stamped : stored.fields.workReports.autopost = false → stored.fields.workReports.autopostSince = none)
    (whole : call.updates = .whole stored.fields) :
    mergeAndSaveBoardConfig row call = some stored := by
  have once : (stored.fields.layout.map LayoutItem.id).Perm allModuleIds := by
    rw [← stored.normal]
    exact keys_complete_perm moduleDefault_id allModuleIds_nodup
  have since : stampedSince stored.fields.workReports stored.fields.workReports call.now =
      stored.fields.workReports.autopostSince := by
    unfold stampedSince
    cases posting : stored.fields.workReports.autopost with
    | true => rfl
    | false => exact (stamped posting).symm
  have nothing : union LayoutItem.id stored.fields.layout stored.fields.layout =
      stored.fields.layout := by
    have carried : (stored.fields.layout.filter fun item =>
        item.id ∉ stored.fields.layout.map LayoutItem.id) = [] := by
      rw [List.filter_eq_nil_iff]
      intro item listed absent
      exact of_decide_eq_true absent (List.mem_map_of_mem listed)
    rw [union, carried, List.append_nil]
  have fixed : mergedFields stored.fields (.whole stored.fields) call.now = stored.fields := by
    simp only [mergedFields, Updates.whole, Option.getD_some, since, nothing]
  rw [mergeAndSaveBoardConfig, same, whole, fixed]
  exact modelValidate_stored stored

end

section

variable {start : Option BoardConfigRow}

theorem lastTurnedOn_concat (history : List (Option BoardConfigRow × Call))
    (row : Option BoardConfigRow) (call : Call) :
    lastTurnedOn (history ++ [(row, call)]) =
      if turnsOn row call then some call.now else lastTurnedOn history := by
  rw [lastTurnedOn, List.reverse_concat, List.find?_cons]
  cases turns : turnsOn row call with
  | true => rfl
  | false => rfl

/-- While the posting is on, its start is that of the last call that turned it on. -/
def Stamped (start : Option BoardConfigRow) (history : List (Option BoardConfigRow × Call))
    (row : Option BoardConfigRow) : Prop :=
  (storedFields row).workReports.autopost = true →
    (storedFields row).workReports.autopostSince =
      (lastTurnedOn history).or (storedFields start).workReports.autopostSince

theorem stamped_save {history : List (Option BoardConfigRow × Call)}
    {row : Option BoardConfigRow} {call : Call} {saved : StoredBoardConfigData}
    (stamped : Stamped start history row)
    (returned : mergeAndSaveBoardConfig row call = some saved) :
    saved.fields.workReports.autopostSince =
      if saved.fields.workReports.autopost then
        (lastTurnedOn (history ++ [(row, call)])).or
          (storedFields start).workReports.autopostSince
      else none := by
  obtain ⟨posting, since⟩ := workReports_of_saved returned
  have turns : turnsOn row call =
      (!(storedFields row).workReports.autopost && saved.fields.workReports.autopost) := by
    rw [turnsOn, returned]
    rfl
  rw [since, lastTurnedOn_concat, turns, stampedSince, ← posting]
  cases before : (storedFields row).workReports.autopost with
  | false =>
    cases after : saved.fields.workReports.autopost with
    | true => rfl
    | false => rfl
  | true =>
    cases after : saved.fields.workReports.autopost with
    | true => exact stamped before
    | false => rfl

theorem stamped_run (calls : List Call) :
    Stamped start (trace save start calls) (run save start calls) := by
  refine history_induction save (Stamped start) (fun _ => rfl) ?_ calls
  intro history row call stamped posting
  cases returned : mergeAndSaveBoardConfig row call with
  | none =>
    have idle : turnsOn row call = false := by
      rw [turnsOn, returned, Option.any_none, Bool.and_false]
    rw [save_of_refused returned] at posting ⊢
    rw [lastTurnedOn_concat, idle]
    exact stamped posting
  | some saved =>
    rw [storedFields_of_saved returned] at posting ⊢
    rw [stamped_save stamped returned, if_pos posting]

/-- Every save of a sequence keeps the modules complete, in the order they were sent in, leaves
what was not sent, and stamps the start of the posting by the last call that turned it on. -/
theorem savedWell (start : Option BoardConfigRow) (valid : (storedFields start).accepted = true)
    (past : List Call) (call : Call) (saved : StoredBoardConfigData)
    (returned : mergeAndSaveBoardConfig (run save start past) call = some saved) :
    SavedWell start past call saved := by
  have accepted : (storedFields (run save start past)).accepted = true :=
    run_invariant save (fun row => (storedFields row).accepted = true) valid
      (fun _ call accepted => accepted_save accepted call) past
  have stamped : Stamped start (trace save start past) (run save start past) := stamped_run past
  have since := stamped_save stamped returned
  constructor
  · obtain ⟨before, loaded, fields⟩ := load_of_accepted accepted
    exact ⟨before, loaded, fields ▸ merged_of_saved returned⟩
  · rw [trace_concat]
    exact since
  · intro again whole
    rw [run_concat]
    refine resave saved (storedFields_of_saved returned) (fun off => ?_) whole
    rw [since, off]
    rfl

def postingTurnedOn : List Call :=
  [⟨{ workReports := some { defaultBoardConfig.workReports with autopost := true } }, 5, 1⟩]

theorem two_modules_saved : ∃ saved,
    mergeAndSaveBoardConfig (run save none postingTurnedOn)
        ⟨{ layout := some [⟨"hours", true, .half⟩, ⟨"stats", false, .full⟩] }, 9, 2⟩ = some saved ∧
      SavedWell none postingTurnedOn
        ⟨{ layout := some [⟨"hours", true, .half⟩, ⟨"stats", false, .full⟩] }, 9, 2⟩ saved := by
  obtain ⟨saved, returned⟩ := Option.isSome_iff_exists.mp
    (by decide : (mergeAndSaveBoardConfig (run save none postingTurnedOn)
      ⟨{ layout := some [⟨"hours", true, .half⟩, ⟨"stats", false, .full⟩] }, 9, 2⟩).isSome = true)
  exact ⟨saved, returned, savedWell none (by decide) postingTurnedOn _ saved returned⟩

def unstampedRow : BoardConfigRow where
  data := some { defaultBoardConfig with
    workReports := { defaultBoardConfig.workReports with autopost := true } }
  updatedBy := none

/-- It is valid, and a save that does not send the posting leaves it so. -/
theorem unstamped_posting_kept : (storedFields (some unstampedRow)).accepted = true ∧
    ∃ saved, mergeAndSaveBoardConfig (some unstampedRow) ⟨{}, 9, 2⟩ = some saved ∧
      ¬ (saved.fields.workReports.autopostSince = none ↔
        saved.fields.workReports.autopost = false) := by
  refine ⟨by decide, ?_⟩
  obtain ⟨saved, returned⟩ := Option.isSome_iff_exists.mp
    (by decide : (mergeAndSaveBoardConfig (some unstampedRow) ⟨{}, 9, 2⟩).isSome = true)
  obtain ⟨posting, since⟩ := workReports_of_saved returned
  refine ⟨saved, returned, ?_⟩
  rw [posting, since]
  decide

end

end InfrasafeBot.BoardConfig
