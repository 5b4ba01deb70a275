import Vitrine.Proofs.Import.Coverage
import Vitrine.Proofs.Script.Link

/-!
# What the code of a script imports (section 4.4)

Linking reports on the specifiers of a script as it is written, but what is loaded is the code that it is
compiled to.

`normalize_specifiers` looks for specifiers in the tree of the source, and `transpile_script` compiles the text
that it gives; the report is the `unresolved` of the module.

* `Module.ofScript_emits`: the report has what the specifiers of the script lead to and the import table
  does not cover; it is exact for the code exactly if compiling neither loses nor adds specifiers that are
  not covered. Of the imports and exports of the script the code has those that do not only concern types,
  and besides those it has the imports of the runtime of markup alone.
* `Module.emitted_unreported`: the report is not exact for the code. An `import` call whose argument stands
  in parentheses is none of the specifiers, but the code has it without them.
-/

namespace Vitrine

open Script (Reading Program Quote)

/-- A script that compiles is read, and lowered without a fault. -/
theorem Script.compile_ok {dialect : Script.Dialect} {fileName code : String} {text : List Char}
    (h : Script.compile dialect fileName text = .ok code) :
    ∃ reading program, Reading.ofText dialect text = .ok reading
      ∧ reading.program.lowered dialect.hasTypes (Script.Markup.Pragmas.ofComments reading.comments)
          fileName = .ok program
      ∧ code = Script.Printer.programText reading.comments program := by
  unfold Script.compile at h
  cases hread : Reading.ofText dialect text with
  | error faults =>
    rw [hread] at h
    exact absurd h nofun
  | ok reading =>
    simp only [hread, bind, pure, Except.bind, Except.pure] at h
    split at h
    case h_2 => exact absurd h nofun
    case h_1 =>
      split at h
      case h_1 => exact absurd h nofun
      case h_2 program hlowered => exact ⟨reading, program, rfl, hlowered, (Except.ok.inj h).symm⟩

/-- Some specifier of the script is the key. -/
def Script.Program.Names (p : Program) (key : String) : Prop :=
  ∃ q ∈ p.specifiers, q.value.toText = key

/-- Some specifier of the script leads to the key. -/
def Script.Program.LeadsTo (p : Program) (snapshot : Snapshot) (path key : String) : Prop :=
  ∃ q ∈ p.specifiers, Import.target path q.value.toText snapshot = key

namespace Module

variable {settings : Settings} {snapshot : Snapshot} {path source : String}

/-- A script that compiles was read, linked, read again and lowered. -/
theorem ofScript_compiled {m : Module} (h : ofScript settings snapshot path source = .ok m) :
    ∃ reading linked program,
      Reading.ofText (dialectOf path) source.toList = .ok reading
        ∧ Reading.ofText (dialectOf path)
            (Import.linked snapshot path reading.program.specifiers source.toList) = .ok linked
        ∧ linked.program.lowered (dialectOf path).hasTypes (Script.Markup.Pragmas.ofComments linked.comments)
            ((Path.stem path).getD "unknown") = .ok program
        ∧ m.code = Script.Printer.programText linked.comments program
        ∧ m.unresolved = Import.unresolved settings snapshot path reading.program.specifiers := by
  cases hread : Reading.ofText (dialectOf path) source.toList with
  | error faults =>
    rw [ofScript, hread] at h
    exact absurd h nofun
  | ok reading =>
    simp only [ofScript, hread, bind, pure, Except.bind, Except.pure] at h
    split at h
    case h_2 => exact absurd h nofun
    case h_1 code hcode =>
      obtain rfl := Except.ok.inj h
      obtain ⟨linked, program, hlinked, hlowered, hprinted⟩ := Script.compile_ok hcode
      exact ⟨reading, linked, program, rfl, hlinked, hlowered, hprinted, rfl⟩

/-- The report is exact for other specifiers than those of the script exactly if both lead to the same keys
that are not covered. -/
theorem exact_iff {names leads covered : String → Prop} {report : List String}
    (hreport : ∀ key, key ∈ report ↔ leads key ∧ ¬ covered key) :
    (∀ key, key ∈ report ↔ names key ∧ ¬ covered key) ↔
      ∀ key, ¬ covered key → (names key ↔ leads key) := by
  refine forall_congr' fun key => ?_
  rw [hreport]
  by_cases hcovered : covered key
  · simp [hcovered]
  · simp [hcovered, iff_comm]

/-- **What is reported of a script, and what its code imports.** The report has what the specifiers of the
script lead to and the import table does not cover. So it is exact for the specifiers of the code exactly if
compiling neither loses nor adds one that is not covered. With its specifiers linked the script is read
again; of the modules that its imports and exports name then, the code names those that are kept, and else
it names modules of the runtime. If the specifiers are read as they were linked, each module that an import
or export of the code names is covered or reported, those of the runtime apart. -/
theorem ofScript_emits {m : Module} (h : ofScript settings snapshot path source = .ok m) :
    ∃ reading linked program,
      Reading.ofText (dialectOf path) source.toList = .ok reading
        ∧ Reading.ofText (dialectOf path)
            (Import.linked snapshot path reading.program.specifiers source.toList) = .ok linked
        ∧ m.code = Script.Printer.programText linked.comments program
        ∧ (∀ key, key ∈ m.unresolved ↔
            reading.program.LeadsTo snapshot path key ∧ ¬ Import.Covered settings snapshot key)
        ∧ (∀ dialect emitted, Reading.ofText dialect m.code.toList = .ok emitted →
            ((∀ key, key ∈ m.unresolved ↔
                emitted.program.Names key ∧ ¬ Import.Covered settings snapshot key) ↔
              ∀ key, ¬ Import.Covered settings snapshot key →
                (emitted.program.Names key ↔ reading.program.LeadsTo snapshot path key)))
        ∧ let hasTypes := (dialectOf path).hasTypes
          let pragmas := Script.Markup.Pragmas.ofComments linked.comments
          linked.program.Declares hasTypes pragmas program
            ∧ ((∀ key, linked.program.Names key ↔ reading.program.LeadsTo snapshot path key) →
              ∀ q ∈ Script.sourcesOf program.stmts, linked.program.IsRuntime hasTypes pragmas q
                ∨ Import.Covered settings snapshot q.value.toText ∨ q.value.toText ∈ m.unresolved) := by
  obtain ⟨reading, linked, program, hread, hlinked, hlowered, hcode, hunresolved⟩ := ofScript_compiled h
  have hreport : ∀ key, key ∈ m.unresolved ↔
      reading.program.LeadsTo snapshot path key ∧ ¬ Import.Covered settings snapshot key := by
    intro key
    rw [hunresolved]
    exact Import.mem_unresolved_iff
  have hdeclares := Program.declares_of_lowered hlowered
  refine ⟨reading, linked, program, hread, hlinked, hcode, hreport, fun _ _ _ => exact_iff hreport,
    hdeclares, fun hlink q hq => (hdeclares.origin q hq).imp_right ?_⟩
  rintro ⟨s, hs, hsource, -⟩
  have hleads : reading.program.LeadsTo snapshot path q.value.toText :=
    (hlink _).mp ⟨q, Program.mem_specifiers hs hsource, rfl⟩
  by_cases hcovered : Import.Covered settings snapshot q.value.toText
  · exact Or.inl hcovered
  · exact Or.inr ((hreport _).mpr ⟨hleads, hcovered⟩)

/-- Of two imports of this script the code has one: that of a type is dropped, and is reported. -/
theorem ofScript_emits_import :
    ∃ reading linked program,
      Reading.ofText (dialectOf "a.ts") "import{T}from'/t';import'./b'".toList = .ok reading
        ∧ Reading.ofText (dialectOf "a.ts") (Import.linked (.ofList [("b.ts", "")]) "a.ts"
            reading.program.specifiers "import{T}from'/t';import'./b'".toList) = .ok linked
        ∧ "import \"/b.ts\";\n" = Script.Printer.programText linked.comments program
        ∧ reading.program.LeadsTo (.ofList [("b.ts", "")]) "a.ts" "/t" := by
  have hok : ofScript {} (.ofList [("b.ts", "")]) "a.ts" "import{T}from'/t';import'./b'"
      = .ok ⟨"a.ts", .script, "import \"/b.ts\";\n", ["/t"]⟩ := by decide +kernel
  obtain ⟨reading, linked, program, hread, hlinked, hcode, hunresolved, -⟩ := ofScript_emits hok
  exact ⟨reading, linked, program, hread, hlinked, hcode, ((hunresolved "/t").mp (by decide)).1⟩

/-- **An import of the code that is not reported.** The code of `import(('./b'))` imports `./b`, no table
has that key, and nothing is reported. -/
theorem emitted_unreported :
    ofScript {} (.ofList [("b.ts", "")]) "a.js" "import(('./b'));"
        = .ok ⟨"a.js", .script, "import(\"./b\");\n", []⟩
      ∧ (Reading.ofText (dialectOf "a.js") "import(\"./b\");\n".toList).toOption.map
          (fun reading => reading.program.specifiers.map (·.value.toText)) = some ["./b"]
      ∧ ¬ Import.Covered {} (.ofList [("b.ts", "")]) "./b" := by
  refine ⟨by decide +kernel, by decide +kernel, ?_⟩
  rintro (hexternal | ⟨f, -, hkey⟩)
  · exact absurd hexternal (by decide)
  · have hlist := congrArg String.toList hkey
    rw [Path.toList_slash] at hlist
    exact absurd (List.cons.inj hlist).1 (by decide)

end Module

end Vitrine
