import WebDataLogger.HttpMessage

/-!
# The static files of the web server

The table `httpsrv_fs_data` that `mkfs.pl` made of the files of the dashboard. The
files are given by their lines. They start with their own text, not with the head
of a response.
-/

namespace WebDataLogger.HttpAssets

open CText HttpMessage

/-- The bytes of a file: its lines with LF between them. -/
def fileBytes : List String → Text
  | [] => []
  | [line] => bytesOf line
  | line::next::lines => bytesOf line++10::fileBytes (next::lines)

/-- `httpsrv_fs_fs_style_css`. -/
def httpsrvFsFsStyleCss : Text := fileBytes
  ["body \x7b",
    "    margin: 0;",
    "    font-family: Arial, sans-serif;",
    "    background: #f2f2f2;",
    "\x7d",
    "",
    ".container \x7b",
    "    width: 400px;",
    "    margin: 100px auto;",
    "    padding: 30px;",
    "    background: white;",
    "    text-align: center;",
    "    border-radius: 10px;",
    "    box-shadow: 0 4px 12px rgba(0, 0, 0, 0.15);",
    "\x7d",
    "",
    "h1 \x7b",
    "    margin-bottom: 30px;",
    "\x7d",
    "",
    ".temperature \x7b",
    "    margin-bottom: 30px;",
    "\x7d",
    "",
    ".temperature h2 \x7b",
    "    font-size: 20px;",
    "\x7d",
    "",
    "#temperature \x7b",
    "    font-size: 36px;",
    "    font-weight: bold;",
    "    margin: 10px;",
    "\x7d",
    "",
    ".input-section \x7b",
    "    display: flex;",
    "    gap: 10px;",
    "\x7d",
    "",
    "input \x7b",
    "    flex: 1;",
    "    padding: 10px;",
    "    font-size: 16px;",
    "    border: 1px solid #aaa;",
    "    border-radius: 5px;",
    "\x7d",
    "",
    "button \x7b",
    "    padding: 10px 20px;",
    "    font-size: 16px;",
    "    border: none;",
    "    border-radius: 5px;",
    "    cursor: pointer;",
    "\x7d",
    "",
    "button:hover \x7b",
    "    opacity: 0.8;",
    "\x7d",
    "",
    "#status \x7b",
    "    margin-top: 20px;",
    "\x7d"]

/-- `httpsrv_fs_fs_index_html`. -/
def httpsrvFsFsIndexHtml : Text := fileBytes
  ["<!DOCTYPE html>",
    "<html lang=\"en\">",
    "<head>",
    "    <meta charset=\"UTF-8\">",
    "    <meta name=\"viewport\" content=\"width=device-width, initial-scale=1.0\">",
    "    <title>MCXN947 Temperature Logger</title>",
    "    <link rel=\"stylesheet\" href=\"style.css\">",
    "</head>",
    "",
    "<body>",
    "",
    "    <div class=\"container\">",
    "        <h1>Temperature Monitor</h1>",
    "",
    "        <!-- Status Indicator -->",
    "        <div class=\"status-bar\">",
    "            <span class=\"status-dot\" id=\"statusDot\"></span>",
    "            <span id=\"statusText\">Connecting...</span>",
    "        </div>",
    "",
    "        <!-- Temperature Display -->",
    "        <div class=\"temperature\">",
    "            <h2>Temperature</h2>",
    "            <p id=\"temperature\">-- \u00c2\u00b0C</p>",
    "            <p class=\"last-update\" id=\"lastUpdate\">Last update: never</p>",
    "        </div>",
    "",
    "        <!-- Control Buttons -->",
    "        <div class=\"control-section\">",
    "            <h3>System Control</h3>",
    "            <div class=\"button-group\">",
    "                <button class=\"btn btn-success\" onclick=\"sendCommand('on')\">Turn ON</button>",
    "                <button class=\"btn btn-danger\" onclick=\"sendCommand('off')\">Turn OFF</button>",
    "            </div>",
    "        </div>",
    "",
    "        <!-- Debug / Raw Data (optional) -->",
    "        <div class=\"debug-section\">",
    "            <details>",
    "                <summary>Raw Data</summary>",
    "                <pre id=\"rawData\">Waiting for MCU...</pre>",
    "            </details>",
    "        </div>",
    "",
    "        <p id=\"status\"></p>",
    "    </div>",
    "",
    "    <script>",
    "        // Configuration",
    "        const MCU_IP = 'http://192.168.0.102';  // Change to your MCU's IP",
    "        const POLL_INTERVAL = 2000;             // 2 seconds",
    "        let pollTimer = null;",
    "",
    "        // Initialize on page load",
    "        document.addEventListener('DOMContentLoaded', () => \x7b",
    "            startPolling();",
    "        \x7d);",
    "",
    "        // Main polling loop",
    "        function startPolling() \x7b",
    "            fetchTemperature();  // Fetch immediately",
    "            pollTimer = setInterval(fetchTemperature, POLL_INTERVAL);",
    "        \x7d",
    "",
    "        // Fetch temperature from MCU",
    "        function fetchTemperature() \x7b",
    "            fetch(`$\x7bMCU_IP\x7d/api/sensor`)",
    "                .then(response => \x7b",
    "                    if (!response.ok) throw new Error(`HTTP $\x7bresponse.status\x7d`);",
    "                    return response.json();",
    "                \x7d)",
    "                .then(data => \x7b",
    "                    updateDisplay(data);",
    "                    setStatus(true, 'Connected');",
    "                \x7d)",
    "                .catch(error => \x7b",
    "                    console.error('Fetch error:', error);",
    "                    setStatus(false, 'Offline');",
    "                    document.getElementById('temperature').textContent = '-- \u00c2\u00b0C';",
    "                \x7d);",
    "        \x7d",
    "",
    "        // Update temperature display",
    "        function updateDisplay(data) \x7b",
    "            const temp = data.temp || data.temperature;  // Handle different field names",
    "            if (temp !== undefined) \x7b",
    "                document.getElementById('temperature').textContent = ",
    "                    temp.toFixed(1) + ' \u00c2\u00b0C';",
    "            \x7d",
    "            ",
    "            // Update last-update timestamp",
    "            const now = new Date();",
    "            const timeStr = now.toLocaleTimeString();",
    "            document.getElementById('lastUpdate').textContent = ",
    "                `Last update: $\x7btimeStr\x7d`;",
    "            ",
    "            // Show raw JSON for debugging",
    "            document.getElementById('rawData').textContent = ",
    "                JSON.stringify(data, null, 2);",
    "        \x7d",
    "",
    "        // Send control command to MCU",
    "        function sendCommand(command) \x7b",
    "            const btn = event.target;",
    "            btn.disabled = true;",
    "            btn.textContent = 'Sending...';",
    "",
    "            fetch(`$\x7bMCU_IP\x7d/api/control`, \x7b",
    "                method: 'POST',",
    "                headers: \x7b 'Content-Type': 'application/json' \x7d,",
    "                body: JSON.stringify(\x7b command: command \x7d)",
    "            \x7d)",
    "            .then(response => \x7b",
    "                if (!response.ok) throw new Error(`HTTP $\x7bresponse.status\x7d`);",
    "                return response.json();",
    "            \x7d)",
    "            .then(data => \x7b",
    "                console.log('MCU response:', data);",
    "                document.getElementById('status').textContent = ",
    "                    `Command \"$\x7bcommand\x7d\" sent successfully`;",
    "                setTimeout(() => \x7b",
    "                    btn.disabled = false;",
    "                    btn.textContent = command === 'on' ? 'Turn ON' : 'Turn OFF';",
    "                \x7d, 800);",
    "            \x7d)",
    "            .catch(error => \x7b",
    "                console.error('Command error:', error);",
    "                document.getElementById('status').textContent = ",
    "                    `Error sending command: $\x7berror.message\x7d`;",
    "                btn.disabled = false;",
    "                btn.textContent = command === 'on' ? 'Turn ON' : 'Turn OFF';",
    "            \x7d);",
    "        \x7d",
    "",
    "        // Update status indicator",
    "        function setStatus(isConnected, text) \x7b",
    "            const dot = document.getElementById('statusDot');",
    "            const statusText = document.getElementById('statusText');",
    "            ",
    "            if (isConnected) \x7b",
    "                dot.className = 'status-dot connected';",
    "                statusText.textContent = text;",
    "                statusText.style.color = '#27ae60';  // Green",
    "            \x7d else \x7b",
    "                dot.className = 'status-dot disconnected';",
    "                statusText.textContent = text;",
    "                statusText.style.color = '#e74c3c';  // Red",
    "            \x7d",
    "        \x7d",
    "",
    "        // Cleanup on page unload",
    "        window.addEventListener('beforeunload', () => \x7b",
    "            if (pollTimer) clearInterval(pollTimer);",
    "        \x7d);",
    "    </script>",
    "",
    "</body>",
    "</html>"]

/-- `HTTPSRV_FS_DIR_ENTRY`. Its `SIZE` is the length of the data. -/
structure HttpsrvFsDirEntry where
  name : Text
  data : Text

/-- `httpsrv_fs_data`, without the entry that ends it. -/
def httpsrvFsData : List HttpsrvFsDirEntry :=
  [⟨bytesOf "/style.css",httpsrvFsFsStyleCss⟩,⟨bytesOf "/index.html",httpsrvFsFsIndexHtml⟩]

end WebDataLogger.HttpAssets
