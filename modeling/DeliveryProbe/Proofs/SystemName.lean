import DeliveryProbe.Proofs.Layering
import DeliveryProbe.Proofs.LineProtocol
import DeliveryProbe.Proofs.QueryString

/-! What becomes of the name of the system on its way to the store, which it takes twice: in the line of a sample and in
the URL that the line is written to. Any text can be configured for a name, and it stands in both as it is, so that the
names that the store gets to know are those that need no escapes in either. -/
namespace DeliveryProbe

namespace Settings

def named (name : String) : Settings where
  text
    | .systemName => some name
    | .monitoredUrl => some "http://svc.local"
    | .searchToken => some "t"
    | .storeUrl => some "http://influx:8086"
    | _ => none
  number _ := none
  dryRun := none

theorem load_named (name : String) :
    ∃ c, load (named name) (fun _ => none) { dryRun := false, port := none } = .ok c ∧ c.systemName = name :=
  ⟨_, rfl, rfl⟩

end Settings

/-- The parameters that a write is meant to have. -/
def Query.intended (system : String) : List (Utf8.Bytes × Utf8.Bytes) :=
  [(bytes "db".toList, bytes "logmonitor".toList), (bytes "_http_tag".toList, bytes system.toList)]

/-- Every text is accepted for the name of the system. The line of a sample says the point that the sample is, and no
other, exactly if the name is a plain one; and the query of a write has the parameters it is meant to have exactly if
the name is transparent in it. -/
theorem name_survives_iff (name : String) :
    (∃ file env o c, Settings.load file env o = .ok c ∧ c.systemName = name) ∧
      (∀ s : Sample, s.system = name → s.drift.IsFinite →
        ((∀ p : LineProtocol.Point, p.ReadFrom s.line ↔ p = s.point) ↔ name ≠ "" ∧ LineProtocol.Plain name)) ∧
      ∀ base : String, (∀ c ∈ base.toList, c ≠ '?' ∧ c ≠ '#') →
        (Query.parameters (Endpoint.write base name) = Query.intended name ↔ Query.Transparent name.toList) := by
  refine ⟨?accepted, ?line, ?query⟩
  case accepted =>
    obtain ⟨c, ok, same⟩ := Settings.load_named name
    exact ⟨_, _, _, c, ok, same⟩
  case line =>
    rintro s rfl finite
    rw [LineProtocol.Point.only_iff, s.readFrom_line_iff finite]
  case query =>
    intro base bare
    exact Query.parameters_write_iff bare name

namespace Shop

def found (system : String) : Sample := .measured system .app true .zero

theorem isFinite_found (system : String) : (found system).drift.IsFinite := Binary64.isFinite_zero.clampNegative

theorem hyphen_survives :
    (found "my-app").drift.IsFinite ∧
      (∀ p : LineProtocol.Point, p.ReadFrom (found "my-app").line ↔ p = (found "my-app").point) ∧
      Query.parameters (Endpoint.write "http://influx:8086" "my-app") = Query.intended "my-app" := by
  obtain ⟨-, line, query⟩ := name_survives_iff "my-app"
  have plain : "my-app" ≠ "" ∧ LineProtocol.Plain "my-app" := by decide
  have transparent : Query.Transparent "my-app".toList :=
    { whole := by simp [Query.isBreak]
      last := by simp [Query.isPadding]
      literal := ⟨by decide, Query.not_escaping_of_not_mem (by decide)⟩ }
  have finite := isFinite_found "my-app"
  exact ⟨finite, (line _ rfl finite).mpr plain, (query _ (by simp)).mpr transparent⟩

/-- A blank makes the line unreadable, and an ampersand makes one parameter too many. -/
theorem laboratory_lost :
    ∃ c, Settings.load (.named "R&D lab") (fun _ => none) { dryRun := false, port := none } = .ok c ∧
      c.storeUrl = some "http://influx:8086" ∧ (found c.systemName).drift.IsFinite ∧
      ¬(found c.systemName).point.ReadFrom (found c.systemName).line ∧
      Query.parameters (Endpoint.write "http://influx:8086" c.systemName) ≠ Query.intended c.systemName := by
  have finite := isFinite_found "R&D lab"
  refine ⟨_, rfl, rfl, finite, ?line, ?query⟩
  case line =>
    intro read
    obtain ⟨-, free, -⟩ := (Sample.readFrom_line_iff _ finite).mp read
    exact free ' ' (by decide) (by decide)
  case query =>
    intro intended
    have transparent := (Query.parameters_write_iff (by simp) "R&D lab").mp intended
    exact (transparent.whole '&' (by decide)).1 rfl

end Shop
end DeliveryProbe
