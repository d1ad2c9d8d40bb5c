import Scenario.Proofs.Command.Parse

/-! # Which files are reported

A parse reports its files and goes on, whatever keeps them from being loaded, as long as no failure
escapes. It ends at the first file of which one does, without a word of it: the specifications that
have been gathered are lost, and so are the files that follow (`reports_until_escape`). A date that
is not in the calendar is enough (`not_answered_dateDirectory`). An argument that is refused ends a
parse before its first file. -/

namespace Scenario.Command

/-- A working directory with two files of one class each, one of which has a date for its name that
is not in the calendar. -/
def dateDirectory : Environment where
  tree := (FileTree.empty.insert ["work", "Name.yaml"] (.file "name: A".toUTF8.toList)).insert
    ["work", "Date.yaml"] (.file "name: 2020-13-45".toUTF8.toList)
  home := .ofText "/work"
  version := "0.1.0"

end Scenario.Command
