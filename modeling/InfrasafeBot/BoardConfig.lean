import InfrasafeBot.Library.KeyedLists
import InfrasafeBot.Library.Machine
import InfrasafeBot.RequestWorkflow.Types

/-! The configuration of the residents' board (`api/board_config`): its one row, into which every
save merges the fields that are sent. A stored configuration carries that its modules are
complete. -/

set_option autoImplicit false

namespace InfrasafeBot.BoardConfig

open Library.KeyedLists RequestWorkflow

structure LocalizedText where
  ru : String
  uz : String

structure OrgCfg where
  name : LocalizedText
  subtitle : LocalizedText

structure ContactsCfg where
  dispatchPhone : String
  dispatchLabel : LocalizedText
  emergency : LocalizedText

structure BotCfg where
  username : String
  label : LocalizedText

structure AnnouncementCfg where
  id : String
  icon : String
  important : Bool
  title : LocalizedText
  text : LocalizedText
  publishedAt : String

structure WorkingHourCfg where
  day : String
  openTime : String
  closeTime : String
  closed : Bool

inductive Width where
  | full
  | half

structure LayoutItem where
  id : String
  visible : Bool
  width : Width

structure WorkReportsCfg where
  autopost : Bool
  autopostSince : Option Moment
  autopublish : Bool
  categories : List String
  limit : Int
  title : LocalizedText

structure BoardConfigFields where
  org : OrgCfg
  contacts : ContactsCfg
  bot : BotCfg
  announcements : List AnnouncementCfg
  workingHours : List WorkingHourCfg
  layout : List LayoutItem
  workReports : WorkReportsCfg

def days : List String := ["mon", "tue", "wed", "thu", "fri", "sat", "sun"]

def allModuleIds : List String := ["stats", "requests", "announcements", "rating", "hours", "workreports"]

def canonicalCategoryKeys : List String :=
  ["electricity", "plumbing", "heating", "elevator", "cleaning", "landscaping", "security",
    "internet", "ventilation", "other", "repair"]

def defaultLayout : List LayoutItem :=
  [⟨"stats", true, .full⟩, ⟨"requests", true, .full⟩, ⟨"announcements", true, .full⟩,
    ⟨"rating", true, .half⟩, ⟨"hours", true, .half⟩]

def defaultBoardConfig : BoardConfigFields where
  org := {
    name := ⟨"Управляющая компания", "Boshqaruv kompaniyasi"⟩
    subtitle := ⟨"ЖК Olmazor Business City · Информационное табло для жителей",
      "TJM Olmazor Business City · Aholilar uchun axborot tablosi"⟩ }
  contacts := {
    dispatchPhone := "+998 71 123-45-67"
    dispatchLabel := ⟨"Диспетчерская", "Dispetcherlik"⟩
    emergency := ⟨"Аварийная служба: круглосуточно", "Favqulodda xizmat: kunduzi-kechasi"⟩ }
  bot := {
    username := "uk_management_bot"
    label := ⟨"Telegram-бот", "Telegram-bot"⟩ }
  announcements := [
    { id := "default-planned-works"
      icon := "⚠️"
      important := true
      title := ⟨"Плановые работы", "Rejalashtirilgan ishlar"⟩
      text := ⟨"промывка отопительной системы — 13 марта, 10:00–14:00",
        "isitish tizimini yuvish — 13 mart, 10:00–14:00"⟩
      publishedAt := "2026-03-10T09:00:00" },
    { id := "default-announcement"
      icon := "📢"
      important := false
      title := ⟨"Объявления", "E'lonlar"⟩
      text := ⟨"", ""⟩
      publishedAt := "2026-03-09T14:30:00" }]
  workingHours :=
    [⟨"mon", "08:00", "20:00", false⟩, ⟨"tue", "08:00", "20:00", false⟩,
      ⟨"wed", "08:00", "20:00", false⟩, ⟨"thu", "08:00", "20:00", false⟩,
      ⟨"fri", "08:00", "20:00", false⟩, ⟨"sat", "09:00", "17:00", false⟩,
      ⟨"sun", "10:00", "16:00", false⟩]
  layout := defaultLayout
  workReports := {
    autopost := false
    autopostSince := none
    autopublish := false
    categories := []
    limit := 6
    title := ⟨"Отчёты о выполненных работах", "Bajarilgan ishlar hisobotlari"⟩ }

/-- `MODULE_DEFAULTS`: the module of the work reports is not shown by itself. -/
def moduleDefault (id : String) : LayoutItem :=
  let defaults := defaultLayout ++ [⟨"workreports", false, .full⟩]
  (lookup LayoutItem.id defaults id).getD ⟨id, true, .full⟩

theorem moduleDefault_id : ∀ id ∈ allModuleIds, (moduleDefault id).id = id := by decide

theorem allModuleIds_nodup : allModuleIds.Nodup := by decide

def distinctCategories (categories : List String) : List String :=
  firsts id canonicalCategoryKeys [] categories

def normalizeLayout (layout : List LayoutItem) : List LayoutItem :=
  complete LayoutItem.id allModuleIds moduleDefault layout

namespace BoardConfigFields

variable (fields : BoardConfigFields)

def accepted : Bool :=
  (fields.workingHours.all fun hour => days.contains hour.day) &&
    (days.all fun day => (fields.workingHours.map WorkingHourCfg.day).contains day) &&
    (fields.workReports.categories.all canonicalCategoryKeys.contains) &&
    decide (1 ≤ fields.workReports.limit ∧ fields.workReports.limit ≤ 24)

def normalized : BoardConfigFields :=
  { fields with
    layout := normalizeLayout fields.layout
    workReports :=
      { fields.workReports with categories := distinctCategories fields.workReports.categories } }

end BoardConfigFields

theorem distinctCategories_idem (categories : List String) :
    distinctCategories (distinctCategories categories) = distinctCategories categories :=
  firsts_eq_self nodup_firsts (fun _ kept => (of_mem_firsts kept).1)
    fun _ _ => List.not_mem_nil

theorem mem_distinctCategories {categories : List String} {category : String}
    (kept : category ∈ distinctCategories categories) : category ∈ canonicalCategoryKeys :=
  (@of_mem_firsts _ _ _ id _ _ _ _ kept).1

theorem normalizeLayout_idem (layout : List LayoutItem) :
    normalizeLayout (normalizeLayout layout) = normalizeLayout layout :=
  complete_complete moduleDefault_id allModuleIds_nodup

theorem normalized_idem (fields : BoardConfigFields) :
    fields.normalized.normalized = fields.normalized := by
  simp only [BoardConfigFields.normalized, normalizeLayout_idem, distinctCategories_idem]

theorem accepted_normalized {fields : BoardConfigFields} (accepted : fields.accepted = true) :
    fields.normalized.accepted = true := by
  simp only [BoardConfigFields.accepted, Bool.and_eq_true] at accepted ⊢
  obtain ⟨⟨hours, _⟩, limit⟩ := accepted
  refine ⟨⟨hours, ?_⟩, limit⟩
  rw [List.all_eq_true]
  exact fun category kept => List.contains_iff_mem.mpr (mem_distinctCategories kept)

/-- What lies in the database after a save and comes out of `load_board_config`. -/
structure StoredBoardConfigData where
  fields : BoardConfigFields
  accepted : fields.accepted = true
  normal : fields.normalized = fields

def modelValidate (fields : BoardConfigFields) : Option StoredBoardConfigData :=
  if accepted : fields.accepted = true then
    some ⟨fields.normalized, accepted_normalized accepted, normalized_idem fields⟩
  else none

structure BoardConfigRow where
  data : Option BoardConfigFields
  updatedBy : Option UserId

/-- The fields that are sent; no layout and an empty one are read alike where it is sent. -/
structure Updates where
  org : Option OrgCfg := none
  contacts : Option ContactsCfg := none
  bot : Option BotCfg := none
  announcements : Option (List AnnouncementCfg) := none
  workingHours : Option (List WorkingHourCfg) := none
  layout : Option (List LayoutItem) := none
  workReports : Option WorkReportsCfg := none

def storedFields (row : Option BoardConfigRow) : BoardConfigFields :=
  (row.bind BoardConfigRow.data).getD defaultBoardConfig

def loadBoardConfig (row : Option BoardConfigRow) : Option StoredBoardConfigData :=
  (modelValidate (storedFields row)).or (modelValidate defaultBoardConfig)

/-- The server's own field: stamped when the posting is turned on, kept while it is on. -/
def stampedSince (stored sent : WorkReportsCfg) (now : Moment) : Option Moment :=
  if !stored.autopost && sent.autopost then some now
  else if sent.autopost then stored.autopostSince
  else none

def mergedFields (stored : BoardConfigFields) (updates : Updates) (now : Moment) : BoardConfigFields :=
  let workReports := updates.workReports.getD stored.workReports
  { org := updates.org.getD stored.org
    contacts := updates.contacts.getD stored.contacts
    bot := updates.bot.getD stored.bot
    announcements := updates.announcements.getD stored.announcements
    workingHours := updates.workingHours.getD stored.workingHours
    layout :=
      match updates.layout with
      | some incoming => union LayoutItem.id incoming stored.layout
      | none => stored.layout
    workReports := { workReports with autopostSince := stampedSince stored.workReports workReports now } }

structure Call where
  updates : Updates
  now : Moment
  updatedBy : UserId

/-- `merge_and_save_board_config`: what is saved and returned; none where the validation fails -/
def mergeAndSaveBoardConfig (row : Option BoardConfigRow) (call : Call) : Option StoredBoardConfigData :=
  modelValidate (mergedFields (storedFields row) call.updates call.now)

def save (row : Option BoardConfigRow) (call : Call) : Option BoardConfigRow :=
  match mergeAndSaveBoardConfig row call with
  | some saved => some ⟨some saved.fields, some call.updatedBy⟩
  | none => row

def Updates.whole (fields : BoardConfigFields) : Updates where
  org := some fields.org
  contacts := some fields.contacts
  bot := some fields.bot
  announcements := some fields.announcements
  workingHours := some fields.workingHours
  layout := some fields.layout
  workReports := some fields.workReports

end InfrasafeBot.BoardConfig
