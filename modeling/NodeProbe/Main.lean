import NodeProbe.Probe

set_option autoImplicit false

open NodeProbe

def settingNames : List String :=
  ["ROSETTA_API_URL", "ROSETTA_BLOCKCHAIN", "ROSETTA_NETWORK", "PROBE_TIMEOUT_SECS", "PROBE_REQUESTS",
   "PROBE_OUTPUT_DIR"]

def readEnvironment : IO Environment := do
  let values ← settingNames.mapM fun name => do return (name, ← IO.getEnv name)
  return values.filterMap fun (name, value) => value.map fun text => (name, text.toUTF8)

def replyOfLine (line : List Char) : Except Lost Head :=
  let status := Nat.ofDigitChars 10 (line.takeWhile Char.isDigit) 0
  .ok ⟨.ofNat status, none, none, .ok (utf8 (String.ofList ((line.dropWhile Char.isDigit).drop 1)))⟩

-- One reply a line. The last one is repeated.
def scriptOfText (content : String) (number : Nat) : Except Lost Head :=
  let replies := ((content.toList.splitOn '\n').filter fun line => line ≠ []).map replyOfLine
  (replies[number]?.or replies.getLast?).getD (.error (.failure "nothing is listening"))

def runProbe (probe : Probe) : IO UInt32 := do
  let environment ← readEnvironment
  let dotenv ← try some <$> IO.FS.readFile ".env" catch _ => pure none
  let started ← IO.monoMsNow
  let content ← (← IO.getStdin).readToEnd
  let finished ← IO.monoMsNow
  let settings := Settings.ofEnvironment environment dotenv
  let files := (dotenv.map fun text => ([".env"], Entry.file text)).toList
  let disk := Disk.makeDirectories ⟨files, []⟩ ((settings.toOption.map (·.outputDir)).getD ".")
  let run := probe.run
    ⟨environment, disk, fun _ => .scripted (scriptOfText content), .ofMillis (finished - started), List.range⟩
  for event in run.log do
    IO.eprintln (event.level.name ++ " " ++ event.message)
  (← IO.getStdout).write ⟨run.printed.toArray⟩
  for event in run.log do
    match event with
    | .saved path => IO.FS.writeFile path ((run.disk.read? path).getD "")
    | _ => pure ()
  match run.trouble with
  | none => return 0
  | some trouble =>
    IO.eprintln ("Error: " ++ trouble.text)
    return 1

def main (arguments : List String) : IO UInt32 := do
  match arguments.head?.bind Probe.named? with
  | some probe => runProbe probe
  | none =>
    IO.eprintln ("usage: nodeprobe NAME, with NAME one of " ++ ", ".intercalate (Probe.all.map (·.1)))
    return 2
