import SchemaDiff.CommandLine.Arguments
/- What the program says about its arguments and its version. -/
namespace SchemaDiff.CommandLine
open SchemaDiff.Text

def usageLines : List Text := [
  "usage: sqompare [-h] --source SOURCE --target TARGET",
  "                [--source-label SOURCE_LABEL] [--target-label TARGET_LABEL]",
  "                [--no-collation] [--plan] [--json-out JSON_OUT]",
  "                [--sql-out SQL_OUT] [--report-out REPORT_OUT] [--no-color]",
  "                [--verbose] [--log-format \x7btext,json\x7d] [--version]",
  "                \x7bcompare,compare-livedb\x7d"]

def helpLines : List Text := [
  "",
  "SQompare - compare the structure of two SQL dumps",
  "",
  "positional arguments:",
  "  \x7bcompare,compare-livedb\x7d",
  "                        Command to execute",
  "",
  "options:",
  "  -h, --help            show this help message and exit",
  "  --source SOURCE       Path to first SQL dump file or directory (or DB URL",
  "                        for compare-livedb)",
  "  --target TARGET       Path to second SQL dump file or directory",
  "  --source-label SOURCE_LABEL",
  "                        Label for the first input",
  "  --target-label TARGET_LABEL",
  "                        Label for the second input",
  "  --no-collation        Leave CHARACTER SET and COLLATE clauses out of",
  "                        generated SQL",
  "  --plan                Print human-readable differences to stdout",
  "  --json-out JSON_OUT   Path to save the comparison as JSON",
  "  --sql-out SQL_OUT     Path to save the generated SQL statements",
  "  --report-out REPORT_OUT",
  "                        Path to save the full comparison report",
  "  --no-color            Disable colored output",
  "  --verbose, -v         Increase log verbosity (-v info, -vv debug)",
  "  --log-format \x7btext,json\x7d",
  "                        Log output format",
  "  --version             show program's version number and exit"]

def ended (ls : List Text) : Text := ls.flatMap fun line => line ++ ['\n']

def usage : Text := ended usageLines

def help : Text := usage ++ ended helpLines

def version : Text := "SQompare v1.0.0"

end SchemaDiff.CommandLine
