import MatrixHarness.Language

/-! # Messages

All that the harness says in the language of its user, as data, and the wording of each message in
each language. -/
namespace MatrixHarness

inductive Message where
  | about | langHelp | memcachedHelp | fastHelp | testRunnerHelp | smpHelp | configHelp
  | settingsUnreadable (path : String)
  | settingsMalformed (path : String)
  | pathNotExpanded (path : String)
  | noVariants
  | matrixBanner (count : Nat) (server : String)
  | variantBanner (name : String)
  | serverStarted
  | running (command : String)
  | killingServer
  | serverKilled
  | interruptReceived
  | cleanupFailed (error : String)
  | serverNotStarted (path : String)
  | testRunnerNotStarted (path : String)
  | testFailed (name : String) (status : String)
  | interrupted (name : String)
  | testRunnerNotAwaited
  | serverNotStopped
  | summaryBanner | statusPassed | statusFailed | allPassed | failureBanner
  | failureLine (name : String) (reason : String)
  | reasonSpawn | reasonTestFailed | reasonInterrupted | reasonFault

namespace Message

def english : Message → String
  | about =>
    "Runs the memcached test suite once per transport variant against a freshly spawned server."
  | langHelp => "Language for console output (e.g. en, zh-CN)"
  | memcachedHelp => "Path of the memcached executable"
  | fastHelp => "Run only fast tests"
  | testRunnerHelp =>
    "Path of the test-runner script (defaults to test_memcached.py next to this executable)"
  | smpHelp => "Concurrency hint passed to the server as --smp=<N>"
  | configHelp => "Optional TOML settings file"
  | settingsUnreadable path => "Failed to read settings file: " ++ path
  | settingsMalformed path => "Failed to parse settings file: " ++ path
  | pathNotExpanded path => "Failed to expand path: " ++ path
  | noVariants => "No variants configured; nothing to run."
  | matrixBanner count server =>
    "Running " ++ toString count ++ " variant(s) against " ++ server
  | variantBanner name => "=== Variant '" ++ name ++ "' ==="
  | serverStarted => "Memcached started."
  | running command => "Running: " ++ command
  | killingServer => "Killing memcached..."
  | serverKilled => "Memcached killed."
  | interruptReceived => "Interrupt received, stopping the current pass..."
  | cleanupFailed error => "Failed to stop memcached cleanly: " ++ error
  | serverNotStarted path => "Failed to start memcached '" ++ path ++ "'"
  | testRunnerNotStarted path => "Failed to start test-runner '" ++ path ++ "'"
  | testFailed name status =>
    "Test-runner for variant '" ++ name ++ "' exited with " ++ status
  | interrupted name => "Variant '" ++ name ++ "' was interrupted"
  | testRunnerNotAwaited => "Failed to wait for the test-runner"
  | serverNotStopped => "Failed to stop memcached"
  | summaryBanner => "--- Matrix Summary ---"
  | statusPassed => "Passed"
  | statusFailed => "Failed"
  | allPassed => "ALL VARIANTS PASSED"
  | failureBanner => "MATRIX FAILED"
  | failureLine name reason => "Variant '" ++ name ++ "' failed (" ++ reason ++ ")"
  | reasonSpawn => "Spawn Failure"
  | reasonTestFailed => "Test Failure"
  | reasonInterrupted => "Interrupted"
  | reasonFault => "Orchestration Fault"

def chinese : Message → String
  | about => "针对新启动的服务器，按每个传输变体运行一次 memcached 测试套件。"
  | langHelp => "控制台输出语言（例如 en, zh-CN）"
  | memcachedHelp => "memcached 可执行文件路径"
  | fastHelp => "仅运行快速测试"
  | testRunnerHelp => "测试脚本路径（默认为本程序旁边的 test_memcached.py）"
  | smpHelp => "以 --smp=<N> 形式传递给服务器的并发提示"
  | configHelp => "可选的 TOML 设置文件"
  | settingsUnreadable path => "读取设置文件失败: " ++ path
  | settingsMalformed path => "解析设置文件失败: " ++ path
  | pathNotExpanded path => "展开路径失败: " ++ path
  | noVariants => "没有配置任何变体，无需运行。"
  | matrixBanner count server => "正在针对 " ++ server ++ " 运行 " ++ toString count ++ " 个变体"
  | variantBanner name => "=== 变体 '" ++ name ++ "' ==="
  | serverStarted => "Memcached 已启动。"
  | running command => "正在运行: " ++ command
  | killingServer => "正在终止 memcached..."
  | serverKilled => "Memcached 已终止。"
  | interruptReceived => "收到中断信号，正在停止当前轮次..."
  | cleanupFailed error => "未能干净地停止 memcached: " ++ error
  | serverNotStarted path => "启动 memcached 失败 '" ++ path ++ "'"
  | testRunnerNotStarted path => "启动测试脚本失败 '" ++ path ++ "'"
  | testFailed name status => "变体 '" ++ name ++ "' 的测试脚本退出状态为 " ++ status
  | interrupted name => "变体 '" ++ name ++ "' 被中断"
  | testRunnerNotAwaited => "等待测试脚本失败"
  | serverNotStopped => "停止 memcached 失败"
  | summaryBanner => "--- 矩阵摘要 ---"
  | statusPassed => "通过"
  | statusFailed => "失败"
  | allPassed => "所有变体均已通过"
  | failureBanner => "矩阵运行失败"
  | failureLine name reason => "变体 '" ++ name ++ "' 失败（" ++ reason ++ "）"
  | reasonSpawn => "启动失败"
  | reasonTestFailed => "测试失败"
  | reasonInterrupted => "已中断"
  | reasonFault => "编排错误"

def text (locale : String) (m : Message) : String :=
  match Language.ofLocale locale with
  | .english => m.english
  | .chinese => m.chinese

end Message
end MatrixHarness
