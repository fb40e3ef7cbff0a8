import SettingsStore.Proofs.Document.Fitting
import SettingsStore.Proofs.Document.Selection

/-!
# Settings that changed

The table of fields is all that is known of a document by those who handle settings by name. It has
every setting once, in the order in which documents are written: whatever stands in the value of a
document and is no section stands at the path of a field. So what is read at the paths of the table
determines a document, and the paths at which two documents differ are those of the settings that
they have different values of.
-/

namespace SettingsStore

open Json

namespace Field

theorem mem_all_iff {f : Field} : f ∈ all ↔ ∃ l : Leaf, l.field = f := by
  simp [all, Leaf.mem_all]

theorem map_path_all : all.map path = Leaf.all.map Leaf.path := by
  rw [all, List.map_map]
  rfl

def paths : List String :=
  ["service_settings.site_url", "service_settings.listen_address",
    "service_settings.enable_developer", "service_settings.allow_cookies_for_subdomains",
    "service_settings.maximum_login_attempts", "service_settings.session_length_web_in_days",
    "service_settings.trusted_proxy_ip_header", "sql_settings.driver_name",
    "sql_settings.data_source", "sql_settings.data_source_replicas", "sql_settings.max_idle_conns",
    "sql_settings.max_open_conns", "sql_settings.query_timeout", "password_settings.minimum_length",
    "password_settings.lowercase", "password_settings.number", "password_settings.uppercase",
    "password_settings.symbol", "file_settings.driver_name", "file_settings.directory",
    "file_settings.max_file_size", "file_settings.public_link_salt",
    "email_settings.enable_sign_up_with_email", "email_settings.feedback_name",
    "email_settings.smtp_server", "email_settings.smtp_port", "email_settings.smtp_password",
    "localization_settings.default_server_locale", "localization_settings.default_client_locale",
    "localization_settings.available_locales", "rate_limit_settings.enable",
    "rate_limit_settings.per_sec", "rate_limit_settings.max_burst", "log_settings.enable_console",
    "log_settings.console_level", "log_settings.file_location",
    "experimental_settings.restrict_system_admin", "experimental_settings.client_side_cert_enable",
    "plugin_settings.enable", "plugin_settings.enable_uploads", "plugin_settings.directory"]

theorem map_path_all_eq_paths : all.map path = paths := by decide +kernel

theorem nodup_paths : paths.Nodup := by
  rw [← map_path_all_eq_paths, map_path_all]
  exact Leaf.nodup_all.map Leaf.path_injective

theorem sameValue_toJson (a b : Document) (l : Leaf) :
    changed.sameValue (l.field.find? a.toJson) (l.field.find? b.toJson) =
      decide (a.get l = b.get l) := by
  rw [a.find?_toJson, b.find?_toJson]
  exact LeafType.same_toJson _ _

theorem changed_toJson (a b : Document) : changed a.toJson b.toJson =
    (Leaf.all.filter fun l => a.get l ≠ b.get l).map Leaf.path := by
  rw [changed, all, List.filter_map, List.map_map]
  refine congrArg (List.map Leaf.path) (List.filter_congr fun l _ => ?_)
  rw [Function.comp_apply, sameValue_toJson, decide_not]

theorem changed_toJson_eq_nil_iff {a b : Document} : changed a.toJson b.toJson = [] ↔ a = b := by
  rw [changed_toJson, List.map_eq_nil_iff, List.filter_eq_nil_iff]
  constructor
  · intro h
    refine Document.ext_get fun l => ?_
    simpa using h l l.mem_all
  · rintro rfl l _
    simp

theorem find?_toJson_eq_iff {a b : Document} :
    (∀ f ∈ all, f.find? a.toJson = f.find? b.toJson) ↔ a = b := by
  constructor
  · intro h
    refine Document.ext_get fun l => LeafType.toJson_injective (Option.some.inj ?_)
    rw [← a.find?_toJson, ← b.find?_toJson]
    exact h l.field (mem_all_iff.mpr ⟨l, rfl⟩)
  · rintro rfl _ _
    rfl

theorem exists_mem_all_of_get? {d : Document} {keys : List String} {value : Json}
    (h : d.toJson.get? keys = some value) (hplain : value.isObject = false) :
    ∃ f ∈ all, f.segments = keys := by
  obtain ⟨l, _, rfl, _⟩ := Leaf.exists_of_get?_ofSettings Leaf.nodup_all
    (fun l => LeafType.isObject_toJson (d.get l)) h hplain
  exact ⟨l.field, mem_all_iff.mpr ⟨l, rfl⟩, rfl⟩

/-- The settings that changed from one document to another are listed by their paths, in the order
of the table and once each. None are listed exactly if the documents are the same, which is also
when all fields of the table read the same in them, since whatever is no section stands at the path
of a field. -/
theorem changed_exact (a b : Document) :
    changed a.toJson b.toJson = (Leaf.all.filter fun l => a.get l ≠ b.get l).map Leaf.path ∧
    (changed a.toJson b.toJson).Sublist paths ∧
    (changed a.toJson b.toJson).Nodup ∧
    (changed a.toJson b.toJson = [] ↔ a = b) ∧
    ((∀ f ∈ all, f.find? a.toJson = f.find? b.toJson) ↔ a = b) ∧
    ∀ keys value, a.toJson.get? keys = some value → value.isObject = false →
      ∃ f ∈ all, f.segments = keys := by
  have hsublist : (changed a.toJson b.toJson).Sublist paths :=
    map_path_all_eq_paths ▸ List.filter_sublist.map path
  exact ⟨changed_toJson a b, hsublist, nodup_paths.sublist hsublist, changed_toJson_eq_nil_iff,
    find?_toJson_eq_iff, fun _ _ => exists_mem_all_of_get?⟩

/-- Two settings that changed are listed in the order of the table. -/
theorem changed_exact_of_two :
    changed Document.default.toJson (Document.toJson
        { service := { enableDeveloper := true }, log := { consoleLevel := "DEBUG" } }) =
      ["service_settings.enable_developer", "log_settings.console_level"] ∧
    Document.default ≠
      { service := { enableDeveloper := true }, log := { consoleLevel := "DEBUG" } } := by
  obtain ⟨hchanged, -, -, hsame, -⟩ := changed_exact Document.default
    { service := { enableDeveloper := true }, log := { consoleLevel := "DEBUG" } }
  rw [Ne, ← hsame, hchanged]
  decide +kernel

end Field

end SettingsStore
