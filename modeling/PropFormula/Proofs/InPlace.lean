import PropFormula.Proofs.Transformation

namespace PropFormula

namespace FileSystem
variable {files : FileSystem} {text body : String} {path : Path} {content : ByteArray}

-- The file at this path can be opened by this text, and that is what it holds.
structure Opens (files : FileSystem) (text : String) (path : Path) (content : ByteArray) : Prop where
  short : checkLength text = .ok ()
  stands : files.Stands text path
  here : files.node? path = some (.file content)
  slashless : endsInSlash text = false

theorem Opens.found (opens : files.Opens text path content) : files.find text = .ok (path,.file content) :=
  find_of_stands opens.stands opens.here opens.slashless

theorem Opens.plain (opens : files.Opens text path content) : files.node? path ≠ some .directory := by
  rw [opens.here]
  exact nofun

theorem opens_of_read (readable : files.read text = .ok body) (filled : body ≠ "") :
    ∃ path content, files.Opens text path content := by
  obtain ⟨⟨⟩,short,readable⟩ := bind_ok.mp readable
  obtain ⟨⟨path,node⟩,found,readable⟩ := bind_ok.mp readable
  cases node with
  | file content =>
    obtain ⟨stands,here,isDirectory | slashless⟩ := find_cases found
    · cases isDirectory
    · exact ⟨path,content,short,stands,here,slashless⟩
  | directory => cases readable
  | device device =>
    cases readable
    exact absurd rfl filled

theorem Opens.read (opens : files.Opens text path body.toUTF8) : files.read text = .ok body := by
  have decoded : String.fromUTF8? body.toUTF8 = some body := dif_pos body.isValidUTF8
  refine bind_ok.mpr ⟨(),opens.short,bind_ok.mpr ⟨_,opens.found,?_⟩⟩
  dsimp only
  rw [decoded]
  rfl

theorem Opens.put (opens : files.Opens text path content) (other : ByteArray) :
    (files.put path (.file other)).Opens text path other where
  short := opens.short
  stands := opens.stands.put opens.plain
  here := node_put files path _ (below_root opens.plain)
  slashless := opens.slashless

theorem Opens.create (opens : files.Opens text path content) :
    files.create text = .ok (files.put path (.file .empty)) := by
  obtain ⟨directory,name,reached,entered⟩ := opens.stands
  refine bind_ok.mpr ⟨(),opens.short,bind_ok.mpr ⟨_,reached,?_⟩⟩
  dsimp only
  rw [opens.slashless,entered]
  simp only [bind,Except.bind,opens.here]
  rfl

theorem Opens.append (opens : files.Opens text path content) (body : String) :
    (files.put path (.file .empty)).append text body = .ok (files.put path (.file body.toUTF8)) := by
  rw [append_put opens.stands opens.slashless opens.plain,ByteArray.empty_append]

theorem Opens.writable (opens : files.Opens text path content) : files.Writable text :=
  ⟨_,opens.create,fun body => ⟨_,opens.append body⟩⟩

end FileSystem

namespace Formula
variable {tree : Formula}

theorem Spelling.parse_line {text : String} {word : List Token} (spelling : Spelling tree text word) :
    Formula.parse (text ++ "\n") = .ok tree := by
  have gap : IsGap ['\n'] := by
    intro character inside
    cases List.mem_singleton.mp inside
    decide
  have stops : Stops ['\n'] := by
    intro character ahead
    cases ahead
    decide
  have cuts := spelling.cuts _ _ stops (.finish gap)
  rw [List.append_nil] at cuts
  exact (parse_exact _ tree).mpr
    ⟨word,(cuts_exact (text ++ "\n") word).mp (by simpa using cuts),spelling.derives.loosen (Nat.zero_le _)⟩

theorem Proper.line_reread (proper : tree.Proper) :
    ∃ text, tree.toInfix = .ok text ∧ Formula.parse (text ++ "\n") = .ok tree := by
  obtain ⟨text,word,spelling⟩ := (built_of_proper proper).spelled
  exact ⟨text,InfixWriter.toInfix_of_writes spelling.writes,spelling.parse_line⟩

theorem nonempty_of_parse {text : String} (parsed : Formula.parse text = .ok tree) : text ≠ "" := by
  rintro rfl
  have refused : Formula.parse "" = .error .emptyFormula := by decide +kernel
  rw [refused] at parsed
  cases parsed

end Formula

def Asks (arguments : List String) (view : View) (input : String) (output : Option String) : Prop :=
  ∃ selection, machineProgram.grammar.read arguments = .ok selection ∧
    selection.command = view.commandName ∧
    selection.own.value? inputOption.key = some input ∧
    selection.own.value? outputOption.key = output

section
variable {arguments : List String} {view : View} {files : FileSystem} {name text body : String}
  {tree : Formula}

theorem command_reached (view : View) (rest : List String) :
    machineProgram.grammar.scope.read .start (view.commandName :: rest) =
      .ok (.start,some (view.commandName,rest)) := by
  cases view <;> rfl

theorem command_runs (view : View) :
    (view.commandName == "help" && machineProgram.grammar.explainsItself) = false := by
  cases view <;> rfl

theorem asks_to_print (view : View) (plain : ¬ isOptionLike name.toList = true) :
    Asks [view.commandName,"-i",name] view name none := by
  refine ⟨⟨view.commandName,.none,⟨["INPUT"],[("INPUT",name)]⟩⟩,?_,rfl,rfl,rfl⟩
  obtain ⟨about,_,known⟩ := command_of_view view
  exact ProgramSpec.read_exact.mpr (.intro (command_reached view _) (command_runs view) known
    (Scope.read_pair rfl rfl rfl rfl rfl rfl plain []) rfl rfl)

theorem asks_to_rewrite (view : View) (plain : ¬ isOptionLike name.toList = true) :
    Asks [view.commandName,"-i",name,"-o",name] view name (some name) := by
  refine ⟨⟨view.commandName,.none,⟨["INPUT","OUTPUT"],[("INPUT",name),("OUTPUT",name)]⟩⟩,?_,rfl,rfl,rfl⟩
  obtain ⟨about,_,known⟩ := command_of_view view
  exact ProgramSpec.read_exact.mpr (.intro (command_reached view _) (command_runs view) known
    ((Scope.read_pair rfl rfl rfl rfl rfl rfl plain ["-o",name]).trans
      (Scope.read_pair rfl rfl rfl rfl rfl rfl plain [])) rfl rfl)

theorem Asks.succeeds {output : Option String} (asks : Asks arguments view name output)
    (readable : files.read name = .ok text) (parsed : Formula.parse text = .ok tree)
    (writable : ∀ path, output = some path → files.Writable path) :
    ∃ received outcome after, launched files arguments = (outcome,after) ∧ outcome.status = 0 ∧
      Transforms view received files (.ok ()) after.files after.output ∧
      Supplies files received text ∧ received.value? outputOption.key = output := by
  obtain ⟨selection,accepted,named,input,rfl⟩ := asks
  obtain ⟨outcome,after,answer,ran,ends,succeeds⟩ := launched_transforms accepted named files
  have supplied : Supplies files selection.own text := .stored input readable
  have success : answer = .ok () := ends.succeeds_iff.mpr ⟨⟨text,tree,supplied,parsed⟩,writable⟩
  subst success
  exact ⟨selection.own,outcome,after,ran,succeeds.mpr rfl,ends,supplied,rfl⟩

theorem Asks.prints (asks : Asks arguments view name none) (readable : files.read name = .ok text)
    (parsed : Formula.parse text = .ok tree) (shown : view.body tree = .ok body) :
    ∃ outcome after, launched files arguments = (outcome,after) ∧ outcome.status = 0 ∧ after.output = body := by
  obtain ⟨received,outcome,after,ran,status,ends,supplied,outputless⟩ := asks.succeeds readable parsed nofun
  obtain ⟨_,_,_,supplied',parsed',shown',prints,_⟩ := ends.delivered
  cases supplied.unique supplied'
  rw [parsed] at parsed'
  cases parsed'
  rw [shown] at shown'
  cases shown'
  exact ⟨outcome,after,ran,status,(prints outputless).1⟩

-- The file is read before it is emptied.
theorem Asks.rewrites {path : Path} {content : ByteArray} (asks : Asks arguments view name (some name))
    (opens : files.Opens name path content) (readable : files.read name = .ok text)
    (parsed : Formula.parse text = .ok tree) (shown : view.body tree = .ok body) :
    ∃ outcome after, launched files arguments = (outcome,after) ∧ outcome.status = 0 ∧
      after.output = "" ∧ after.files = files.put path (.file body.toUTF8) := by
  have writable : ∀ other, some name = some other → files.Writable other := by
    intro other same
    cases same
    exact opens.writable
  obtain ⟨received,outcome,after,ran,status,ends,supplied,output⟩ := asks.succeeds readable parsed writable
  refine ⟨outcome,after,ran,status,?_⟩
  generalize after.output = written at ends ⊢
  generalize after.files = final at ends ⊢
  cases ends with
  | printed _ _ _ outputless => rw [output] at outputless; cases outputless
  | stored supplied' parsed' shown' output' made wrote =>
    cases supplied.unique supplied'
    rw [parsed] at parsed'
    cases parsed'
    rw [shown] at shown'
    cases shown'
    rw [output] at output'
    cases output'
    rw [opens.create] at made
    cases made
    rw [opens.append] at wrote
    cases wrote
    exact ⟨rfl,rfl⟩

end

-- Rewriting the file leaves the formula's own notation in it and nothing else anywhere, doing it again changes
-- nothing, and whoever looks at the formula sees the same before and after. By a plain name all this can be
-- asked for in so many words.
theorem normalization_in_place {files : FileSystem} {name text : String} {tree : Formula}
    {arguments : List String} (readable : files.read name = .ok text) (parsed : Formula.parse text = .ok tree)
    (asks : Asks arguments .parenthesized name (some name)) :
    ∃ path content written outcome normal,
      files.find name = .ok (path,.file content) ∧ tree.toInfix = .ok written ∧
      launched files arguments = (outcome,normal) ∧ outcome.status = 0 ∧ normal.output = "" ∧
      normal.files.find name = .ok (path,.file (written ++ "\n").toUTF8) ∧
      (∀ other, other ≠ path → normal.files.node? other = files.node? other) ∧
      (∃ outcome again, launched normal.files arguments = (outcome,again) ∧ outcome.status = 0 ∧
        again.files = normal.files) ∧
      (∀ view looking, Asks looking view name none → ∃ body outcome before outcome' after,
        view.body tree = .ok body ∧
        launched files looking = (outcome,before) ∧ outcome.status = 0 ∧ before.output = body ∧
        launched normal.files looking = (outcome',after) ∧ outcome'.status = 0 ∧ after.output = body) ∧
      (¬ isOptionLike name.toList = true →
        Asks ["infix","-i",name,"-o",name] .parenthesized name (some name) ∧
        ∀ view : View, Asks [view.commandName,"-i",name] view name none) := by
  obtain ⟨path,content,opens⟩ := FileSystem.opens_of_read readable (Formula.nonempty_of_parse parsed)
  obtain ⟨written,rendered,reparsed⟩ := (Formula.proper_of_parse parsed).line_reread
  have shown : View.body .parenthesized tree = .ok (written ++ "\n") := by
    rw [View.body,rendered]
    rfl
  obtain ⟨outcome,normal,ran,status,quiet,stored⟩ := asks.rewrites opens readable parsed shown
  have reopens := opens.put (written ++ "\n").toUTF8
  rw [← stored] at reopens
  obtain ⟨outcome',again,reran,status',_,restored⟩ := asks.rewrites reopens reopens.read reparsed shown
  refine ⟨path,content,written,outcome,normal,opens.found,rendered,ran,status,quiet,reopens.found,?_,?_,?_,?_⟩
  · intro other different
    rw [stored]
    exact FileSystem.node_put_other files path other _ different
  · refine ⟨outcome',again,reran,status',?_⟩
    rw [restored,stored,FileSystem.put_put]
  · intro view looking asked
    obtain ⟨body,seen⟩ := view.body_of_parse parsed
    obtain ⟨first,before,ran,status,output⟩ := asked.prints readable parsed seen
    obtain ⟨second,after,ran',status',output'⟩ := asked.prints reopens.read reparsed seen
    exact ⟨body,first,before,second,after,seen,ran,status,output,ran',status',output'⟩
  · intro plain
    exact ⟨asks_to_rewrite .parenthesized plain,fun view => asks_to_print view plain⟩

-- The file gains the outer parentheses and an end of line, once and for all.
theorem conjunction_normalized_in_place :
    formulaBesideDirectory.read "in.txt" = .ok "x & (!y | z)" ∧
      Asks ["infix","-i","in.txt","-o","in.txt"] .parenthesized "in.txt" (some "in.txt") ∧
      ∃ outcome normal,
        launched formulaBesideDirectory ["infix","-i","in.txt","-o","in.txt"] = (outcome,normal) ∧
        outcome.status = 0 ∧
        normal.files.find "in.txt" = .ok (["work","in.txt"],.file "(x & (!y | z))\n".toUTF8) ∧
        ∃ outcome again, launched normal.files ["infix","-i","in.txt","-o","in.txt"] = (outcome,again) ∧
          outcome.status = 0 ∧ again.files = normal.files := by
  have readable : formulaBesideDirectory.read "in.txt" = .ok "x & (!y | z)" := rfl
  have parsed : Formula.parse "x & (!y | z)" =
      .ok (.binary .and (.var "x") (.binary .or (.not (.var "y")) (.var "z"))) := by
    decide +kernel
  have shown : Formula.toInfix (.binary .and (.var "x") (.binary .or (.not (.var "y")) (.var "z"))) =
      .ok "(x & (!y | z))" := by
    decide +kernel
  have asks : Asks ["infix","-i","in.txt","-o","in.txt"] .parenthesized "in.txt" (some "in.txt") :=
    asks_to_rewrite .parenthesized (by decide)
  obtain ⟨path,content,written,outcome,normal,found,rendered,ran,status,_,holds,_,again,_⟩ :=
    normalization_in_place readable parsed asks
  cases found
  rw [shown] at rendered
  cases rendered
  exact ⟨readable,asks,outcome,normal,ran,status,holds,again⟩

end PropFormula
