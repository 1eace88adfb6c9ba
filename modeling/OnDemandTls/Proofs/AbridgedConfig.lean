import Mathlib.Algebra.Group.Nat.Defs
import OnDemandTls.Config.Document
import OnDemandTls.Proofs.AbridgedRecords

namespace OnDemandTls

/-!
# Configurations that are written in part

A JSON text of a configuration says as much as one cares to say: whatever has its
default may be left out, be it a setting or a section, and what nobody knows may
be added.  Every such text is read as the configuration that it was made from
(`Config.abridged_texts_are_read`).
-/

/-! ## Values of settings -/

theorem plain_natural
    {n : Nat}
    (fits : n < 2 ^ 64) :
    Json.Plain (.integer n) := by
  apply Json.Plain.integer
  unfold Json.FitsLiteral
  omega

theorem plain_unsigned16 (value : UInt16) : Json.Plain (.integer value.toNat) := by
  have small := value.toNat_lt
  apply plain_natural
  omega

theorem plain_unsigned64 (value : UInt64) : Json.Plain (.integer value.toNat) :=
  plain_natural value.toNat_lt

theorem plain_optional_string (value : Option String) :
    Json.Plain (.optional .string value) := by
  cases value with
  | none => exact .null
  | some value => exact .string value

namespace Reader

theorem read_unsigned16 (value : UInt16) :
    unsigned16 .json (.integer value.toNat) = .ok value := by
  have small := value.toNat_lt
  have fits : (0 : Int) ≤ value.toNat ∧ (value.toNat : Int) ≤ 0xFFFF := by omega
  simp [unsigned16, map, integer, Document.integer, Except.map, fits]

theorem read_unsigned64 (value : UInt64) :
    unsigned64 .json (.integer value.toNat) = .ok value := by
  have small := value.toNat_lt
  have fits : (0 : Int) ≤ value.toNat ∧ (value.toNat : Int) ≤ 0xFFFFFFFFFFFFFFFF := by omega
  simp [unsigned64, map, integer, Document.integer, Except.map, fits]

theorem read_optional_string (value : Option String) :
    optional string .json (.optional .string value) = .ok value := by
  cases value <;> rfl

theorem read_engine (engine : StoreEngine) :
    choice StoreEngine.names .json (.string engine.name) = .ok engine := by
  cases engine <;> rfl

end Reader

theorem Field.store_defaulted
    {α β : Type}
    {reader : Reader β}
    {format : Format}
    {document : Document}
    {value : β}
    (reads : reader format document = .ok value)
    (name : String)
    (set : β → α → α)
    (record : α) :
    (defaulted name reader set).store format document record = .ok (set value record) := by
  simp [defaulted, reads, Except.map]

/-! ## Sections -/

namespace ServerSettings

/-- What may be written for listener settings. -/
def Abridges : Document → Document → Prop :=
  Document.Abridges (fun _ => Eq) ({} : ServerSettings).toDocument

theorem describes (settings : ServerSettings) :
    shape.Describes (fun _ => Eq) ({} : ServerSettings).toDocument settings.toDocument
      settings where
  exists_fills := by
    refine ⟨_, rfl, rfl, ?_⟩
    refine .leaf rfl (.string _) rfl rfl rfl rfl ?_
    refine .leaf rfl (plain_unsigned16 _) rfl
      (Field.store_defaulted (Reader.read_unsigned16 _) _ _ _) rfl rfl ?_
    refine .leaf rfl (plain_unsigned16 _) rfl
      (Field.store_defaulted (Reader.read_unsigned16 _) _ _ _) rfl rfl ?_
    refine .leaf rfl (.boolean _) rfl rfl rfl rfl ?_
    refine .leaf rfl (.string _) rfl rfl rfl rfl ?_
    exact .nil settings
  distinct := by decide
  spared := by simp [shape, Field.defaulted]

end ServerSettings

namespace DatabaseSettings

/-- What may be written for store settings. -/
def Abridges : Document → Document → Prop :=
  Document.Abridges (fun _ => Eq) ({} : DatabaseSettings).toDocument

theorem describes (settings : DatabaseSettings) :
    shape.Describes (fun _ => Eq) ({} : DatabaseSettings).toDocument settings.toDocument
      settings where
  exists_fills := by
    refine ⟨_, rfl, rfl, ?_⟩
    refine .leaf rfl (.string _) rfl (Field.store_defaulted (Reader.read_engine _) _ _ _) rfl rfl ?_
    refine .leaf rfl (.string _) rfl rfl rfl rfl ?_
    exact .nil settings
  distinct := by decide
  spared := by simp [shape, Field.defaulted]

end DatabaseSettings

namespace AcmeSettings

/-- What may be written for issuance settings. -/
def Abridges : Document → Document → Prop :=
  Document.Abridges (fun _ => Eq) ({} : AcmeSettings).toDocument

theorem describes (settings : AcmeSettings) :
    shape.Describes (fun _ => Eq) ({} : AcmeSettings).toDocument settings.toDocument
      settings where
  exists_fills := by
    refine ⟨_, rfl, rfl, ?_⟩
    refine .leaf rfl (.string _) rfl rfl rfl rfl ?_
    refine .leaf rfl (.string _) rfl rfl rfl rfl ?_
    refine .leaf rfl (.boolean _) rfl rfl rfl rfl ?_
    refine .leaf rfl (.boolean _) rfl rfl rfl rfl ?_
    refine .leaf rfl (plain_optional_string _) rfl
      (Field.store_defaulted (Reader.read_optional_string _) _ _ _) rfl rfl ?_
    refine .leaf rfl (plain_optional_string _) rfl
      (Field.store_defaulted (Reader.read_optional_string _) _ _ _) rfl rfl ?_
    refine .leaf rfl (plain_optional_string _) rfl
      (Field.store_defaulted (Reader.read_optional_string _) _ _ _) rfl rfl ?_
    refine .leaf rfl (.string _) rfl rfl rfl rfl ?_
    exact .nil settings
  distinct := by decide
  spared := by simp [shape, Field.defaulted]

end AcmeSettings

namespace MaintenanceSettings

/-- What may be written for maintenance settings. -/
def Abridges : Document → Document → Prop :=
  Document.Abridges (fun _ => Eq) ({} : MaintenanceSettings).toDocument

theorem describes (settings : MaintenanceSettings) :
    shape.Describes (fun _ => Eq) ({} : MaintenanceSettings).toDocument settings.toDocument
      settings where
  exists_fills := by
    refine ⟨_, rfl, rfl, ?_⟩
    refine .leaf rfl (plain_unsigned64 _) rfl
      (Field.store_defaulted (Reader.read_unsigned64 _) _ _ _) rfl rfl ?_
    exact .nil settings
  distinct := by decide
  spared := by simp [shape, Field.defaulted]

end MaintenanceSettings

/-! ## Claimed domains -/

namespace CustomDomain

/-- What is meant without an entry; the domain and its owner must be given. -/
def defaults : Document :=
  .record
    [ ("repo", .string "pages")
    , ("branch", .string "pages")
    , ("authorized", .boolean true) ]

/-- What may be written for a claimed domain. -/
def Abridges : Document → Document → Prop :=
  Document.Abridges (fun _ => Eq) defaults

theorem describes (claim : CustomDomain) :
    shape.Describes (fun _ => Eq) defaults claim.toDocument claim where
  exists_fills := by
    refine ⟨_, rfl, rfl, ?_⟩
    refine .needed rfl (.string _) rfl rfl rfl ?_
    refine .needed rfl (.string _) rfl rfl rfl ?_
    refine .leaf rfl (.string _) rfl rfl rfl rfl ?_
    refine .leaf rfl (.string _) rfl rfl rfl rfl ?_
    refine .leaf rfl (.boolean _) rfl rfl rfl rfl ?_
    exact .nil claim
  distinct := by decide
  spared := by
    simp [shape, Field.defaulted, Field.needed, defaults, Document.get?, Document.record,
      Document.find?]

/-- Claimed domains may be written as they are. -/
theorem abridges_items (claims : List CustomDomain) :
    Document.AbridgesItems Abridges (.sequence (claims.map toDocument))
      (.sequence (claims.map toDocument)) := by
  apply Document.AbridgesItems.sequence
  apply List.forall₂_same.mpr
  intro item member
  obtain ⟨claim, -, rfl⟩ := List.mem_map.mp member
  exact claim.describes.abridges

theorem plain_items (claims : List CustomDomain) :
    Json.Plain (.sequence (claims.map toDocument)) := by
  apply Json.Plain.sequence
  intro item member
  obtain ⟨claim, -, rfl⟩ := List.mem_map.mp member
  exact claim.describes.plain

/-- Every abridgement of claimed domains is read as these domains. -/
theorem read_items
    {claims : List CustomDomain}
    {document : Document}
    (isWhole : document.isWhole = true)
    (abridges :
      Document.AbridgesItems Abridges (.sequence (claims.map toDocument)) document) :
    Reader.list shape.read .json document = .ok claims := by
  cases abridges with
  | @sequence _ written each =>
      have whole := (Json.areWhole_iff written).mp isWhole
      change written.mapM (shape.read .json) = .ok claims
      clear isWhole
      induction claims generalizing written with
      | nil =>
          cases each
          rfl
      | cons claim claims inductionHypothesis =>
          cases each with
          | cons abridges each =>
              have first := claim.describes.read abridges (whole _ List.mem_cons_self)
              have others :=
                inductionHypothesis each fun item member => whole item (List.mem_cons_of_mem _ member)
              simp only [List.mapM_cons, first, others]
              rfl

end CustomDomain

/-! ## Configurations -/

namespace Config

/-- What may be written for the value of a name. -/
def forms (name : String) : Document → Document → Prop :=
  match name with
  | "server" => ServerSettings.Abridges
  | "database" => DatabaseSettings.Abridges
  | "acme" => AcmeSettings.Abridges
  | "custom_domains" => Document.AbridgesItems CustomDomain.Abridges
  | "maintenance" => MaintenanceSettings.Abridges
  | _ => Eq

/-- What may be written for a configuration. -/
def Abridges : Document → Document → Prop :=
  Document.Abridges forms ({} : Config).toDocument

theorem describes (config : Config) :
    shape.Describes forms ({} : Config).toDocument config.toDocument config where
  exists_fills := by
    refine ⟨_, rfl, rfl, ?_⟩
    refine .leaf rfl (.string _) rfl rfl rfl rfl ?_
    refine .branch rfl config.server.describes.plain config.server.describes.abridges
      (fun form isWhole isForm =>
        Field.store_defaulted (config.server.describes.read isForm isWhole) _ _ _) rfl rfl ?_
    refine .branch rfl config.database.describes.plain config.database.describes.abridges
      (fun form isWhole isForm =>
        Field.store_defaulted (config.database.describes.read isForm isWhole) _ _ _) rfl rfl ?_
    refine .branch rfl config.acme.describes.plain config.acme.describes.abridges
      (fun form isWhole isForm =>
        Field.store_defaulted (config.acme.describes.read isForm isWhole) _ _ _) rfl rfl ?_
    refine .branch rfl (CustomDomain.plain_items _) (CustomDomain.abridges_items _)
      (fun form isWhole isForm =>
        Field.store_defaulted (CustomDomain.read_items isWhole isForm) _ _ _) rfl rfl ?_
    refine .branch rfl config.maintenance.describes.plain config.maintenance.describes.abridges
      (fun form isWhole isForm =>
        Field.store_defaulted (config.maintenance.describes.read isForm isWhole) _ _ _) rfl rfl ?_
    exact .nil config
  distinct := by decide
  spared := by simp [shape, Field.defaulted]

/-- A configuration is read from every text of an abridgement of its document:
what has its default may be left out of sections and claimed domains, and so may
whole sections, and anything may stand under unknown names.  Its own text, in
either layout, is one of them. -/
theorem abridged_texts_are_read (config : Config) :
    Abridges config.toDocument config.toDocument ∧
      (∀ layout, Json.Spells config.toDocument (Json.print layout config.toDocument)) ∧
      ∀ {document text},
        Abridges config.toDocument document →
        Json.Spells document text.toList →
        ofJson text = .ok config := by
  refine ⟨config.describes.abridges, ?printed, ?read⟩
  case printed =>
    intro layout
    exact Json.spells_print config.describes.plain layout
  case read =>
    intro document text abridges spells
    have read := config.describes.read abridges spells.isWhole
    unfold ofJson Reading.decode
    rw [Json.read_of_spells spells, read]
    rfl

/-- An empty section, one that is written in full, and an entry that nobody knows. -/
def sparseDocument : Document :=
  .record
    [ ("log_level", .string "debug")
    , ("motd", .sequence [.string "\"hi\"", .null])
    , ("server", .record [])
    , ("maintenance", ({} : MaintenanceSettings).toDocument) ]

/-- An absent section, an empty one and one that is written in full mean the same. -/
theorem sparse_document_is_read :
    ofJson (Json.pretty sparseDocument) = .ok { logLevel := "debug" } := by
  have plain : Json.Plain sparseDocument := by
    apply Json.Plain.record
    simp only [List.forall_mem_cons, List.not_mem_nil, false_implies, implies_true, and_true]
    refine ⟨.string _, .sequence ?_, .record nofun, (MaintenanceSettings.describes {}).plain⟩
    simp only [List.forall_mem_cons, List.not_mem_nil, false_implies, implies_true, and_true]
    exact ⟨.string _, .null⟩
  have spells : Json.Spells sparseDocument (Json.pretty sparseDocument).toList := by
    rw [Json.pretty, String.toList_ofList]
    exact Json.spells_print plain _
  obtain ⟨-, -, read⟩ := abridged_texts_are_read { logLevel := "debug" }
  refine read (.table ?_) spells
  refine .keeps rfl (.adds _ (by decide) (.keeps (.table ?emptySection) ?absentSections))
  case emptySection =>
    exact .omits rfl (.omits rfl (.omits rfl (.omits rfl (.omits rfl .nil))))
  case absentSections =>
    exact .omits rfl (.omits rfl (.omits rfl
      (.keeps (MaintenanceSettings.describes {}).abridges .nil)))

end Config

end OnDemandTls
