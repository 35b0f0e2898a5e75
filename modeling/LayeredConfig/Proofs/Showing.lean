import LayeredConfig.Proofs.Decoding
import LayeredConfig.Proofs.Feedback
import LayeredConfig.Proofs.Rendering

/-! What is shown is the whole configuration. The output of the command is a JSON text of one
object, whose members are the fields, and can be read as nothing else. As the fields determine a
configuration that was assembled, two of them that are shown alike are the same. -/

namespace LayeredConfig

open Text (Datum Json)

def Value.datum : Value → Datum
  | .absent => .null
  | .text content => .string content
  | .integer number => .number number
  | .flag on => .boolean on
  | .items contents => .array (contents.map .string)

/-- What a configuration is shown to be: an object of its fields by their names. -/
def Config.datum (config : Config) : Datum :=
  .object (Field.all.map fun field => (field.name, (config.settings.get field).datum))

theorem Value.datum_json (value : Value) : value.json.datum = value.datum := by
  cases value <;> rfl

theorem Value.datum_injective : Function.Injective Value.datum := by
  have hitems : Function.Injective (List.map Datum.string) :=
    List.map_injective_iff.2 fun _ _ => Datum.string.inj
  intro value other h
  cases value <;> cases other <;> simp_all [datum, hitems.eq_iff]

theorem Text.Json.data_eq_map (members : List (String × Json)) :
    Json.data members = members.map fun member => (member.1, member.2.datum) := by
  induction members with
  | nil => rfl
  | cons member members ih => rw [Json.data, ih]; rfl

/-- Every field is shown under a name of its own. -/
theorem Field.names_nodup : (Field.all.map Field.name).Nodup := by
  decide

namespace Config

theorem isTextOf_show (config : Config) : Datum.IsTextOf config.datum (config.show ++ "\n") := by
  let object := Json.object (Field.all.map fun field =>
    (field.name, (config.settings.get field).json))
  have hobject : object.datum = config.datum := by
    rw [Json.datum, Json.data_eq_map, List.map_map, datum]
    simp only [Function.comp_def, Value.datum_json]
  have hend : "\n".toList.all Datum.isSpace = true := rfl
  have hwrites := (Datum.writes_render 0 object).to_element.append_element List.all_nil hend
  rw [hobject, List.nil_append] at hwrites
  rw [Datum.IsTextOf, String.toList_append]
  exact hwrites

/-- A configuration is printed as it is shown, since there is no escape sequence in it. -/
theorem printed_show (config : Config) :
    CommandLine.printed config.show = config.show ++ "\n" := by
  have hescape : '\x1b' ∉ config.show.toList := Json.not_mem_render _ 0
  rw [CommandLine.printed_eq, Text.unstyled_eq_self hescape]

/-- Two configurations that are shown to be the same have the same fields. -/
theorem get_eq_of_datum_eq {config other : Config} (h : config.datum = other.datum)
    (field : Field) : config.settings.get field = other.settings.get field := by
  have hmembers := Datum.object.inj h
  have hmember := List.map_inj_left.1 hmembers field field.mem_all
  exact Value.datum_injective (Prod.mk.inj hmember).2

theorem isNormal_of_assemble {files : Files} {freshId : String} {options : Options}
    {config : Config} (h : (assemble files freshId options).result = .ok config) :
    config.settings.IsNormal :=
  (isLookup_of_assemble h).isNormal

end Config

namespace CommandLine

/-- What `show` prints for the assembled configuration is a JSON text of one object, with each field
once, that says this configuration and nothing else. So no other configuration that is assembled, in
whatever run, is shown by the same output. -/
theorem prints_show {around : Surroundings} {arguments others : List String} {options : Options}
    {understood : Arguments} {output : String}
    (hcalled : invocation? arguments = some ⟨options, .show, others⟩)
    (hdivided : showCommand.divide others = .ok understood)
    (hhelp : understood.wantsHelp = false) (hprints : Prints around arguments output) :
    ∃ config, (assemble around.files around.freshId options).result = .ok config ∧
      (∀ datum, Datum.IsTextOf datum output ↔ datum = config.datum) ∧
      (Field.all.map Field.name).Nodup ∧ (Field.all.map Field.name).length = 24 ∧
      ∀ (files : Files) (freshId : String) (options : Options) (other : Config),
        (assemble files freshId options).result = .ok other → other.show ++ "\n" = output →
          other = config := by
  obtain ⟨config, hconfig, hresult, -⟩ := (prints_iff_of_divide hcalled hdivided hhelp).1 hprints
  obtain rfl : config.show ++ "\n" = output :=
    config.printed_show.symm.trans (Except.ok.inj hresult)
  refine ⟨config, hconfig, fun datum => ⟨fun h => h.unique config.isTextOf_show, ?_⟩,
    Field.names_nodup, rfl, fun files freshId options other hother hshow => ?_⟩
  · rintro rfl
    exact config.isTextOf_show
  · have hdatum : other.datum = config.datum :=
      (hshow ▸ other.isTextOf_show).unique config.isTextOf_show
    have hsettings : other.settings = config.settings :=
      (Config.isNormal_of_assemble hother).eq_of_get (Config.isNormal_of_assemble hconfig)
        (Config.get_eq_of_datum_eq hdatum)
    exact congrArg Config.mk hsettings

/-- An identity with a quotation mark, a backslash and control characters is shown. -/
theorem prints_show_of_marks :
    let around : Surroundings := ⟨fun _ => .error .notFound, ⟨.root, ["work"]⟩, "w"⟩
    let config : Config := ⟨{ Settings.defaults "\"\\\n\x01" with
      port := 7, portText := some "007" }⟩
    Prints around ["-p", "007", "-i", "\"\\\n\x01", "show"] (config.show ++ "\n") ∧
      ∀ datum, Datum.IsTextOf datum (config.show ++ "\n") ↔ datum = config.datum := by
  intro around config
  let options := { Options.none with port := some "007", instanceId := some "\"\\\n\x01" }
  let arguments := ["-p", "007", "-i", "\"\\\n\x01", "show"]
  have hcalled : invocation? arguments = some ⟨options, .show, []⟩ := by decide +kernel
  have hdivided : Subcommand.show.command.divide [] = .ok ⟨[], false, []⟩ := by decide +kernel
  have hassembled : (assemble around.files around.freshId options).result = .ok config := by
    decide +kernel
  have hprints : Prints around arguments (config.show ++ "\n") :=
    (prints_iff_of_divide hcalled hdivided rfl).2
      ⟨config, hassembled, congrArg Except.ok config.printed_show, rfl⟩
  obtain ⟨shown, hshown, htext, -⟩ := prints_show hcalled hdivided rfl hprints
  obtain rfl := Except.ok.inj (hassembled.symm.trans hshown)
  exact ⟨hprints, htext⟩

end CommandLine

end LayeredConfig
