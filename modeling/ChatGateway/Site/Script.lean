/-!
# The page's script
-/

namespace ChatGateway.Site

/-- The lines of the script. -/
def scriptLines : List String := [
  "class Chatbox \x7b\n",
  "    constructor() \x7b\n",
  "        this.args = \x7b\n",
  "            openButton: document.querySelector('.chatbox__button'),\n",
  "            chatBox: document.querySelector('.chatbox__support'),\n",
  "            sendButton: document.querySelector('.send__button'),\n",
  "        \x7d;\n",
  "        this.state = false;\n",
  "        this.messages = [];\n",
  "    \x7d\n",
  "\n",
  "    display() \x7b\n",
  "        const \x7b openButton, chatBox, sendButton \x7d = this.args;\n",
  "\n",
  "        openButton.addEventListener('click', () => this.toggleState(chatBox));\n",
  "        sendButton.addEventListener('click', () => this.onSendButton(chatBox));\n",
  "\n",
  "        const node = chatBox.querySelector('input');\n",
  "        node.addEventListener('keyup', (\x7b key \x7d) => \x7b\n",
  "            if (key === 'Enter') \x7b\n",
  "                this.onSendButton(chatBox);\n",
  "            \x7d\n",
  "        \x7d);\n",
  "    \x7d\n",
  "\n",
  "    toggleState(chatbox) \x7b\n",
  "        this.state = !this.state;\n",
  "        chatbox.classList.toggle('chatbox--active', this.state);\n",
  "    \x7d\n",
  "\n",
  "    onSendButton(chatbox) \x7b\n",
  "        const textField = chatbox.querySelector('input');\n",
  "        const text = textField.value;\n",
  "        if (text === '') \x7b\n",
  "            return;\n",
  "        \x7d\n",
  "\n",
  "        this.messages.push(\x7b name: 'User', message: text \x7d);\n",
  "\n",
  "        fetch('/predict', \x7b\n",
  "            method: 'POST',\n",
  "            body: JSON.stringify(\x7b message: text \x7d),\n",
  "            headers: \x7b 'Content-Type': 'application/json' \x7d,\n",
  "        \x7d)\n",
  "            .then((r) => \x7b\n",
  "                if (!r.ok) \x7b\n",
  "                    throw new Error(\x60status $\x7br.status\x7d\x60);\n",
  "                \x7d\n",
  "                return r.json();\n",
  "            \x7d)\n",
  "            .then((r) => \x7b\n",
  "                this.messages.push(\x7b name: 'Bot', message: r.answer \x7d);\n",
  "            \x7d)\n",
  "            .catch((error) => \x7b\n",
  "                console.error('Error:', error);\n",
  "                this.messages.push(\x7b name: 'Bot', message: 'Sorry, something went wrong.' \x7d);\n",
  "            \x7d)\n",
  "            .finally(() => \x7b\n",
  "                this.updateChatText(chatbox);\n",
  "                textField.value = '';\n",
  "            \x7d);\n",
  "    \x7d\n",
  "\n",
  "    updateChatText(chatbox) \x7b\n",
  "        const container = chatbox.querySelector('.chatbox__messages');\n",
  "        container.replaceChildren();\n",
  "\n",
  "        this.messages.slice().reverse().forEach((item) => \x7b\n",
  "            const div = document.createElement('div');\n",
  "            div.classList.add('messages__item');\n",
  "            div.classList.add(item.name === 'Bot' ? 'messages__item--visitor' : 'messages__item--operator');\n",
  "            div.textContent = item.message;\n",
  "            container.appendChild(div);\n",
  "        \x7d);\n",
  "    \x7d\n",
  "\x7d\n",
  "\n",
  "new Chatbox().display();\n"]

/-- The script that the page loads. -/
def script : String := String.join scriptLines

end ChatGateway.Site
